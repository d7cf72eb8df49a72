import VitaLinuxPort.Lib.Ranking
import VitaLinuxPort.Proof.Input.Session

/-!
# Which nodes discovery selects

A pass over an empty object should give the slots to the admissible nodes of the highest rank,
whatever order the directory lists them in. It ranks them by what it reads of the metadata files, and
where it cannot read a name it takes what is left in the buffer, which may be that of the buttons. A
node so misread stands too high. The slots are right as long as it passes none of the nodes that come
first.
-/

namespace VitaLinuxPort

namespace Dirent

/-- The entry without what the buffer happens to hold. -/
def known (entry : Dirent) : Dirent := { entry with staleName := [] }

def number (entry : Dirent) : Nat := (eventNodeNumber entry.dName).getD 0

/-- What the probe of the open node says, whatever it is called. -/
def verdict (entry : Dirent) : Int :=
  if (probeIsGamepad entry.opened entry.probe).1 then 2
  else if (probeIsActionKeyboard entry.opened entry.probe).1 then 1
  else 0

def Admissible (entry : Dirent) : Prop :=
  (eventNodeNumber entry.dName).isSome ∧ entry.dName.length < cartInputNodeMax ∧
    0 ≤ entry.opened ∧ entry.probe.ioctlName.isSome ∧ entry.verdict ≠ 0

instance : DecidablePred Admissible := fun _ => inferInstanceAs (Decidable (_ ∧ _))

/-- The hint of the metadata files, where one that cannot be read gives none, or the verdict. -/
def rank (entry : Dirent) : Int := max (sysfsRank entry.known) entry.verdict

/-- The physical path is not that of the buttons, there is no name to read, and the buffer holds that
of the buttons. -/
def Misread (entry : Dirent) : Prop :=
  readTrimmedLine entry.physFile 128 [] ≠ vitaButtonsPhys ∧ entry.nameFile = none ∧
    entry.staleName = vitaButtonsName

instance : DecidablePred Misread := fun _ => inferInstanceAs (Decidable (_ ∧ _))

/-- The rank of a node as the pass reads it. -/
def readRank (entry : Dirent) : Int := if entry.Misread then 3 else entry.rank

def prepared (entry : Dirent) : CartInputSource :=
  let scratch := { CartInputSource.zero with fd := -1, node := entry.dName }
  match entry.probe.ioctlName with
  | none => scratch
  | some name =>
      (probeSnapshotAxes { scratch with name := name.take (cartInputNameMax - 1) } entry.opened
        entry.probe).1

/-- The source in the slot of a node that is claimed. -/
def connected (entry : Dirent) : CartInputSource :=
  { entry.prepared with
    fd := entry.opened
    state := .connected
    generation := entry.prepared.generation + 1 }

def candidate (entry : Dirent) : CartInputCandidate where
  fd := entry.opened
  rank := entry.readRank
  number := entry.number
  node := entry.dName
  prepared := entry.prepared

variable {entry : Dirent}

theorem node_connected (entry : Dirent) : entry.connected.node = entry.dName := by
  unfold connected prepared
  dsimp only
  split
  · rfl
  · exact (probeSnapshotAxes_prepared _ _ _).1

theorem verdict_nonneg (entry : Dirent) : 0 ≤ entry.verdict := by
  unfold verdict
  split_ifs <;> decide

theorem verdict_le (entry : Dirent) : entry.verdict ≤ 2 := by
  unfold verdict
  split_ifs <;> decide

theorem nameLine_known (hname : entry.nameFile = none) :
    readTrimmedLine entry.known.nameFile cartInputNameMax entry.known.staleName ≠
      vitaButtonsName := by
  rw [show entry.known.nameFile = none from hname]
  show ([] : CString) ≠ vitaButtonsName
  decide

theorem sysfsRank_of_misread (h : entry.Misread) :
    sysfsRank entry = 3 ∧ sysfsRank entry.known = 0 := by
  obtain ⟨hphys, hname, hstale⟩ := h
  have hread : readTrimmedLine entry.nameFile cartInputNameMax entry.staleName =
      vitaButtonsName := by
    rw [hname]
    exact hstale
  constructor
  · rw [sysfsRank, if_neg hphys, if_pos hread]
  · rw [sysfsRank, if_neg (by exact hphys), if_neg (nameLine_known hname)]

theorem sysfsRank_known (h : ¬ entry.Misread) : sysfsRank entry.known = sysfsRank entry := by
  unfold sysfsRank
  by_cases hphys : readTrimmedLine entry.physFile 128 [] = vitaButtonsPhys
  · rw [if_pos hphys, if_pos (by exact hphys)]
  · rw [if_neg hphys, if_neg (by exact hphys)]
    cases hname : entry.nameFile with
    | none =>
        have hstale : readTrimmedLine none cartInputNameMax entry.staleName ≠ vitaButtonsName :=
          fun hstale => h ⟨hphys, hname, hstale⟩
        rw [if_neg (nameLine_known hname), if_neg hstale]
    | some contents =>
        have hsame : readTrimmedLine entry.known.nameFile cartInputNameMax entry.known.staleName =
            readTrimmedLine (some contents) cartInputNameMax entry.staleName := by
          rw [show entry.known.nameFile = some contents from hname]
          rfl
        rw [hsame]

theorem max_sysfsRank (entry : Dirent) : max (sysfsRank entry) entry.verdict = entry.readRank := by
  have hle := entry.verdict_le
  rw [readRank]
  split
  · next h =>
      rw [(sysfsRank_of_misread h).1]
      omega
  · next h => rw [rank, sysfsRank_known h]

theorem rank_le_readRank (entry : Dirent) : entry.rank ≤ entry.readRank := by
  have hle := entry.verdict_le
  rw [readRank]
  split
  · next h =>
      rw [rank, (sysfsRank_of_misread h).2]
      omega
  · exact Int.le_refl _

theorem classifySource_eq (scratch : CartInputSource) (sysfsRank : Int) (entry : Dirent) :
    (classifySource scratch entry.opened sysfsRank entry.probe).1 =
        (if entry.probe.ioctlName.isSome ∧ entry.verdict ≠ 0 then max sysfsRank entry.verdict
        else 0) ∧
      (entry.probe.ioctlName.isSome ∧ entry.verdict ≠ 0 →
        (classifySource scratch entry.opened sysfsRank entry.probe).2.1 =
          match entry.probe.ioctlName with
          | none => scratch
          | some name =>
              (probeSnapshotAxes { scratch with name := name.take (cartInputNameMax - 1) }
                entry.opened entry.probe).1) := by
  cases hname : entry.probe.ioctlName with
  | none => simp [classifySource, hname]
  | some name =>
      unfold verdict
      by_cases hgamepad : (probeIsGamepad entry.opened entry.probe).1 = true
      · simp [classifySource, hname, hgamepad]
      · by_cases hkeyboard : (probeIsActionKeyboard entry.opened entry.probe).1 = true <;>
          simp [classifySource, hname, hgamepad, hkeyboard]

theorem examineEntry_of_admissible (h : entry.Admissible) :
    (examineEntry entry).1 = some entry.candidate := by
  obtain ⟨hnamed, hshort, hopened, hprobed⟩ := h
  obtain ⟨number, hnumber⟩ := Option.isSome_iff_exists.mp hnamed
  obtain ⟨hclassified, hprepared⟩ := classifySource_eq
    { CartInputSource.zero with fd := -1, node := entry.dName } (sysfsRank entry) entry
  have hverdict := entry.verdict_nonneg
  have hmax : max (sysfsRank entry) (max (sysfsRank entry) entry.verdict) = entry.readRank := by
    rw [← max_sysfsRank]
    omega
  rw [if_pos hprobed] at hclassified
  rw [examineEntry, hnumber]
  dsimp only
  rw [if_neg (by omega), if_neg (by omega), hclassified, if_neg (by omega), hprepared hprobed, hmax,
    candidate, Dirent.number, hnumber, Option.getD_some, prepared]

theorem examineEntry_of_not_admissible (h : ¬ entry.Admissible) : (examineEntry entry).1 = none := by
  obtain ⟨hclassified, _⟩ := classifySource_eq
    { CartInputSource.zero with fd := -1, node := entry.dName } (sysfsRank entry) entry
  unfold examineEntry
  split
  · rfl
  · next number hnumber =>
      split_ifs with hlong hopened
      · rfl
      · rfl
      · have hprobed : ¬ (entry.probe.ioctlName.isSome ∧ entry.verdict ≠ 0) := fun hprobed =>
          h ⟨by rw [hnumber]; rfl, by omega, by omega, hprobed⟩
        rw [if_neg hprobed] at hclassified
        dsimp only
        rw [if_pos hclassified]

end Dirent

/-- The entries of nodes that can be opened and whose probe admits them. -/
def admissibleNodes (entries : List Dirent) : List Dirent := entries.filter Dirent.Admissible

theorem admissibleNodes_map_known (entries : List Dirent) :
    admissibleNodes (entries.map Dirent.known) = (admissibleNodes entries).map Dirent.known := by
  rw [admissibleNodes, List.filter_map]
  rfl

/-- Within the capacity the scan has a candidate for every admissible node. -/
theorem scanDirectory_eq {count : Nat} {entries : List Dirent}
    (hcap : count + (admissibleNodes entries).length ≤ candidateCap) :
    (scanDirectory count entries).1 = (admissibleNodes entries).map Dirent.candidate := by
  induction entries generalizing count with
  | nil => rfl
  | cons entry rest ih =>
      rw [scanDirectory]
      by_cases hadmissible : entry.Admissible
      · have hfound := Dirent.examineEntry_of_admissible hadmissible
        have hnodes : admissibleNodes (entry :: rest) = entry :: admissibleNodes rest :=
          List.filter_cons_of_pos (by simpa using hadmissible)
        rw [hnodes, List.length_cons] at hcap
        rw [if_pos (by omega), hnodes]
        dsimp only
        rw [hfound, ih (by simp; omega)]
        rfl
      · have hfound := Dirent.examineEntry_of_not_admissible hadmissible
        have hnodes : admissibleNodes (entry :: rest) = admissibleNodes rest :=
          List.filter_cons_of_neg (by simpa using hadmissible)
        rw [hnodes] at hcap ⊢
        split
        · dsimp only
          rw [hfound, ih (by simpa using hcap)]
          rfl
        · next hfull =>
            have hnone : admissibleNodes rest = [] := List.eq_nil_of_length_eq_zero (by omega)
            rw [hnone]
            rfl

section Selection

open Ranking

/-- The slots hold the admissible nodes that come first by rank and then by number, and no other. -/
def SelectsByRank (entries : List Dirent) (input : CartInput) : Prop :=
  ∃ order : List Dirent, order.Perm (admissibleNodes (entries.map Dirent.known)) ∧
    order.Pairwise (Precedes Dirent.rank Dirent.number) ∧
    ∀ slot : Slot, input.source slot = (order[slot.val]?).elim resetSource Dirent.connected

/-- No misread node, which counts as one of rank 3, is put before one of the first four nodes that
should precede it. -/
def KeepsFirst (entries : List Dirent) : Prop :=
  ∀ first ∈ admissibleNodes entries,
    (admissibleNodes entries).countP (fun node => Precedes Dirent.rank Dirent.number node first) < 4 →
    ∀ node ∈ admissibleNodes entries, node.Misread →
      Precedes Dirent.rank Dirent.number first node →
      Precedes Dirent.readRank Dirent.number first node

variable {entries : List Dirent}

theorem precedes_readRank {first node : Dirent} (hnode : ¬ node.Misread)
    (h : Precedes Dirent.rank Dirent.number first node) :
    Precedes Dirent.readRank Dirent.number first node := by
  have hfirst := first.rank_le_readRank
  have hread : node.readRank = node.rank := if_neg hnode
  unfold Precedes at h ⊢
  omega

theorem getElem?_lookup_finRange {α : Type*} (l : List α) (slot : Slot) :
    ((List.finRange 4).zip l).lookup slot = l[slot.val]? := by
  rcases l with _ | ⟨a, _ | ⟨b, _ | ⟨c, _ | ⟨d, l⟩⟩⟩⟩ <;>
    match slot with
    | 0 | 1 | 2 | 3 => rfl

theorem source_cartInputInitEx (directory : Directory) (slot : Slot) :
    (cartInputInitEx directory).input.source slot =
      (directory.planned[slot.val]?).elim resetSource CartInputCandidate.connected := by
  have hempty : CartInput.cleared.emptySlots = List.finRange 4 := by
    rw [CartInput.emptySlots, List.filter_eq_self]
    intro slot _
    rfl
  rw [cartInputInitEx, input_discoverPass, source_withClaims, CartInput.claims, hempty,
    getElem?_lookup_finRange]
  rfl

/-- The plan is the ranking of the nodes by what is read of them. -/
theorem exists_readOrder (hcap : (admissibleNodes entries).length ≤ candidateCap)
    (hnumbers : ((admissibleNodes entries).map Dirent.number).Nodup) :
    ∃ order : List Dirent, order.Perm (admissibleNodes entries) ∧
      order.Pairwise (Precedes Dirent.readRank Dirent.number) ∧
      (Directory.entries entries).planned = order.map Dirent.candidate := by
  obtain ⟨order, hperm, hsorted⟩ := exists_ranking Dirent.readRank hnumbers
  refine ⟨order, hperm, hsorted, ?_⟩
  have hscan : (scanDirectory 0 entries).1 = (admissibleNodes entries).map Dirent.candidate :=
    scanDirectory_eq (by omega)
  have hplan := cartInputPlan_perm ((admissibleNodes entries).map Dirent.candidate)
  have hbefore := cartInputPlan_pairwise ((admissibleNodes entries).map Dirent.candidate)
  have hdistinct : (cartInputPlan ((admissibleNodes entries).map Dirent.candidate)).Pairwise
      fun a b => a.number ≠ b.number := by
    refine List.pairwise_map.mp ((hplan.map CartInputCandidate.number).nodup_iff.mpr ?_)
    rw [List.map_map]
    exact hnumbers
  have hranked : (cartInputPlan ((admissibleNodes entries).map Dirent.candidate)).Pairwise
      (Precedes CartInputCandidate.rank CartInputCandidate.number) := by
    refine hbefore.imp₂ (fun a b hab hne => ?_) hdistinct
    unfold CartInputCandidate.Before at hab
    unfold Precedes
    omega
  rw [Directory.planned, hscan]
  exact ranking_unique hranked (List.pairwise_map.mpr hsorted)
    (hplan.trans (hperm.map Dirent.candidate).symm)

/-- What the slots hold determines the first four nodes. -/
theorem forall_slot_iff_take_eq {l m : List Dirent}
    (hinjective : ∀ a ∈ l, ∀ b ∈ m, a.dName = b.dName → a = b) :
    (∀ slot : Slot, (l[slot.val]?).elim resetSource Dirent.connected =
        (m[slot.val]?).elim resetSource Dirent.connected) ↔ l.take 4 = m.take 4 := by
  constructor
  · intro hslots
    refine List.ext_getElem? fun i => ?_
    rw [List.getElem?_take, List.getElem?_take]
    split
    · next hlt =>
        have hslot := hslots ⟨i, hlt⟩
        dsimp only at hslot
        cases hl : l[i]? with
        | none =>
            cases hm : m[i]? with
            | none => rfl
            | some b =>
                rw [hl, hm] at hslot
                cases congrArg CartInputSource.state hslot
        | some a =>
            cases hm : m[i]? with
            | none =>
                rw [hl, hm] at hslot
                cases congrArg CartInputSource.state hslot
            | some b =>
                rw [hl, hm] at hslot
                have hnode := congrArg CartInputSource.node hslot
                simp only [Option.elim_some, Dirent.node_connected] at hnode
                rw [hinjective a (List.mem_of_getElem? hl) b (List.mem_of_getElem? hm) hnode]
    · rfl
  · intro htake slot
    have hl : (l.take 4)[slot.val]? = l[slot.val]? := List.getElem?_take_of_lt slot.isLt
    have hm : (m.take 4)[slot.val]? = m[slot.val]? := List.getElem?_take_of_lt slot.isLt
    rw [← hl, ← hm, htake]

theorem nodup_dName {nodes : List Dirent} (hnumbers : (nodes.map Dirent.number).Nodup) :
    ∀ a ∈ nodes, ∀ b ∈ nodes, a.dName = b.dName → a = b := by
  intro a ha b hb hname
  refine List.inj_on_of_nodup_map hnumbers ha hb ?_
  rw [Dirent.number, Dirent.number, hname]

theorem selectsByRank_iff {ranked : List Dirent} (hperm : ranked.Perm (admissibleNodes entries))
    (hranked : ranked.Pairwise (Precedes Dirent.rank Dirent.number)) (input : CartInput) :
    SelectsByRank entries input ↔ ∀ slot : Slot,
      input.source slot = (ranked[slot.val]?).elim resetSource Dirent.connected := by
  have hknown : (ranked.map Dirent.known).Pairwise (Precedes Dirent.rank Dirent.number) :=
    List.pairwise_map.mpr hranked
  have hconnected : ∀ slot : Slot, ((ranked.map Dirent.known)[slot.val]?).elim resetSource
      Dirent.connected = (ranked[slot.val]?).elim resetSource Dirent.connected := by
    intro slot
    rw [List.getElem?_map]
    cases ranked[slot.val]? <;> rfl
  have hperm := hperm.map Dirent.known
  rw [← admissibleNodes_map_known] at hperm
  constructor
  · rintro ⟨order, horder, hsorted, hslots⟩ slot
    rw [hslots, ranking_unique hsorted hknown (horder.trans hperm.symm), hconnected]
  · intro hslots
    exact ⟨_, hperm, hknown, fun slot => by rw [hslots, hconnected]⟩

theorem keepsFirst_iff {ranked : List Dirent} (hperm : ranked.Perm (admissibleNodes entries)) :
    KeepsFirst entries ↔ ∀ first ∈ ranked,
      ranked.countP (fun node => Precedes Dirent.rank Dirent.number node first) < 4 →
      ∀ node ∈ ranked, Precedes Dirent.rank Dirent.number first node →
        Precedes Dirent.readRank Dirent.number first node := by
  simp only [KeepsFirst, hperm.countP_eq, hperm.mem_iff]
  constructor
  · intro hkeeps first hfirst hcount node hnode hprecedes
    by_cases hmisread : node.Misread
    · exact hkeeps first hfirst hcount node hnode hmisread hprecedes
    · exact precedes_readRank hmisread hprecedes
  · exact fun h first hfirst hcount node hnode _ => h first hfirst hcount node hnode

/-- The slots are those of the ranking exactly when no misread node passes one of the first four. -/
theorem selectsByRank_iff_keepsFirst (hcap : (admissibleNodes entries).length ≤ candidateCap)
    (hnumbers : ((admissibleNodes entries).map Dirent.number).Nodup) :
    SelectsByRank entries (cartInputInitEx (.entries entries)).input ↔ KeepsFirst entries := by
  obtain ⟨read, hreadPerm, hread, hplanned⟩ := exists_readOrder hcap hnumbers
  obtain ⟨ranked, hrankedPerm, hranked⟩ := exists_ranking Dirent.rank hnumbers
  have hslots : ∀ slot : Slot, (cartInputInitEx (.entries entries)).input.source slot =
      (read[slot.val]?).elim resetSource Dirent.connected := by
    intro slot
    rw [source_cartInputInitEx, hplanned, List.getElem?_map]
    cases read[slot.val]? <;> rfl
  have hinjective : ∀ a ∈ read, ∀ b ∈ ranked, a.dName = b.dName → a = b := fun a ha b hb =>
    nodup_dName hnumbers a (hreadPerm.mem_iff.mp ha) b (hrankedPerm.mem_iff.mp hb)
  have htake := take_eq_take_iff_countP hranked hread (hrankedPerm.trans hreadPerm.symm) 4
  rw [selectsByRank_iff hrankedPerm hranked, keepsFirst_iff hrankedPerm, ← htake]
  simp only [hslots]
  exact (forall_slot_iff_take_eq hinjective).trans eq_comm

/-- Two listings of the same nodes. -/
def SameNodes (first second : List Dirent) : Prop :=
  (first.map Dirent.known).Perm (second.map Dirent.known)

namespace SameNodes

variable {first second : List Dirent}

theorem admissibleNodes (h : SameNodes first second) :
    ((admissibleNodes first).map Dirent.known).Perm
      ((admissibleNodes second).map Dirent.known) := by
  rw [← admissibleNodes_map_known, ← admissibleNodes_map_known]
  exact h.filter _

theorem selectsByRank_iff (h : SameNodes first second) (input : CartInput) :
    SelectsByRank first input ↔ SelectsByRank second input := by
  have hperm : (VitaLinuxPort.admissibleNodes (first.map Dirent.known)).Perm
      (VitaLinuxPort.admissibleNodes (second.map Dirent.known)) := h.filter _
  exact exists_congr fun order => and_congr_left' ⟨fun hfirst => hfirst.trans hperm,
    fun hsecond => hsecond.trans hperm.symm⟩

end SameNodes

theorem SelectsByRank.input_eq {directory other : Directory}
    (h : SelectsByRank entries (cartInputInitEx directory).input)
    (hother : SelectsByRank entries (cartInputInitEx other).input) :
    (cartInputInitEx directory).input = (cartInputInitEx other).input := by
  obtain ⟨order, hperm, hsorted, hslots⟩ := h
  obtain ⟨again, hpermAgain, hsortedAgain, hslotsAgain⟩ := hother
  have hsame := ranking_unique hsorted hsortedAgain (hperm.trans hpermAgain.symm)
  rw [cartInputInitEx, cartInputInitEx, input_discoverPass, input_discoverPass] at *
  simp only [CartInput.withClaims, CartInput.mk.injEq, and_true]
  funext slot
  exact (hslots slot).trans (by rw [hsame]; exact (hslotsAgain slot).symm)

/-- Two orders of at most sixteen admissible nodes with distinct numbers give the same slots, which are
those of the ranking, exactly when in neither order a misread node passes one of the first four. -/
theorem selects_by_rank_iff {first second : List Dirent} (hsame : SameNodes first second)
    (hcap : (admissibleNodes first).length ≤ candidateCap)
    (hnumbers : ((admissibleNodes first).map Dirent.number).Nodup) :
    ((cartInputInitEx (.entries first)).input = (cartInputInitEx (.entries second)).input ∧
        SelectsByRank first (cartInputInitEx (.entries first)).input) ↔
      KeepsFirst first ∧ KeepsFirst second := by
  have hnodes := hsame.admissibleNodes
  have hcapSecond : (admissibleNodes second).length ≤ candidateCap := by
    have hlength := hnodes.length_eq
    rw [List.length_map, List.length_map] at hlength
    omega
  have hnumbersSecond : ((admissibleNodes second).map Dirent.number).Nodup := by
    have hmap := hnodes.map Dirent.number
    rw [List.map_map, List.map_map] at hmap
    exact hmap.nodup_iff.mp hnumbers
  rw [← selectsByRank_iff_keepsFirst hcap hnumbers,
    ← selectsByRank_iff_keepsFirst hcapSecond hnumbersSecond]
  constructor
  · rintro ⟨hequal, hfirst⟩
    refine ⟨hfirst, ?_⟩
    rw [← hequal]
    exact (hsame.selectsByRank_iff _).mp hfirst
  · rintro ⟨hfirst, hsecond⟩
    exact ⟨hfirst.input_eq ((hsame.selectsByRank_iff _).mpr hsecond), hfirst⟩

/-- A keyboard with the name of the buttons. -/
private def labelled : Dirent :=
  { InputSession.keyboard 3 with
    dName := "event5".toList
    nameFile := some vitaButtonsName }

/-- A gamepad whose name cannot be read, after what the buffer holds. -/
private def nameless (stale : CString) : Dirent :=
  { InputSession.gamepad "event1".toList [] 4 with staleName := stale }

instance (entries : List Dirent) : Decidable (KeepsFirst entries) :=
  inferInstanceAs (Decidable (∀ _ ∈ _, _ → ∀ _ ∈ _, _ → _ → _))

theorem selects_by_rank_iff_labelled :
    ((cartInputInitEx (.entries [labelled, nameless []])).input =
          (cartInputInitEx (.entries [nameless [], labelled])).input ∧
        SelectsByRank [labelled, nameless []]
          (cartInputInitEx (.entries [labelled, nameless []])).input) ↔
      KeepsFirst [labelled, nameless []] ∧ KeepsFirst [nameless [], labelled] :=
  selects_by_rank_iff (List.Perm.swap _ _ _) (by decide) (by decide)

/-- A gamepad listed after the buttons takes over their name, and the slot before theirs; listed before
them, it does not. -/
theorem not_selects_by_rank :
    let first := [labelled, nameless vitaButtonsName]
    let second := [nameless [], labelled]
    SameNodes first second ∧ (admissibleNodes first).length ≤ candidateCap ∧
      ((admissibleNodes first).map Dirent.number).Nodup ∧
      labelled.rank = 3 ∧ (nameless vitaButtonsName).rank = 2 ∧
      ((cartInputInitEx (.entries first)).input.source 0).node = "event1".toList ∧
      ((cartInputInitEx (.entries second)).input.source 0).node = "event5".toList ∧
      (cartInputInitEx (.entries first)).input ≠ (cartInputInitEx (.entries second)).input := by
  intro first second
  have hfirst : ((cartInputInitEx (.entries first)).input.source 0).node = "event1".toList := by
    decide
  have hsecond : ((cartInputInitEx (.entries second)).input.source 0).node = "event5".toList := by
    decide
  refine ⟨List.Perm.swap _ _ _, by decide, by decide, by decide,
    by decide, hfirst, hsecond, fun hequal => ?_⟩
  rw [hequal, hsecond] at hfirst
  exact absurd hfirst (by decide)

end Selection

end VitaLinuxPort
