import Mathlib.Data.Fintype.Basic
import Mathlib.Data.Finset.Insert
import Mathlib.Data.Multiset.MapFold

/-!
# Operations completed in groups

Every operation of a finite set has a slot. A request claims the slots of several operations
under the first of them, its leader, whose master record says which operations the group still
waits for. The last operation to complete frees all slots of the group, some for good, and
hands the master over. A group that was opened is outstanding until it is handed over, once.
-/

namespace OpGroups

inductive Slot (κ : Type*) where
  | group (leader : κ)
  | empty
  | done
  deriving DecidableEq

structure Master (κ τ : Type*) where
  success : Bool
  need : Finset κ
  complete : Finset κ
  tag : τ

structure Groups (κ τ : Type*) where
  slot : κ → Slot κ
  master : κ → Master κ τ

namespace Groups

variable {κ τ : Type*} [DecidableEq κ]

/-- The operation was started and waits for its completion. -/
def isLive (g : Groups κ τ) (op : κ) : Bool :=
  match g.slot op with
  | .group leader => decide (op ∉ (g.master leader).complete)
  | _ => false

def claim (g : Groups κ τ) (leader op : κ) : Groups κ τ :=
  { g with slot := Function.update g.slot op (.group leader) }

def unclaim (g : Groups κ τ) (ops : Finset κ) : Groups κ τ :=
  { g with slot := fun op => if op ∈ ops then .empty else g.slot op }

/-- Set up the master of operations that have been claimed. -/
def setUp (g : Groups κ τ) (leader : κ) (ops : Finset κ) (tag : τ) : Groups κ τ :=
  { g with master := Function.update g.master leader ⟨true, ops, ∅, tag⟩ }

def mark (g : Groups κ τ) (leader op : κ) (success : Bool) : Groups κ τ :=
  let m := g.master leader
  let m' := { m with success := m.success && success, complete := insert op m.complete }
  { g with master := Function.update g.master leader m' }

/-- Free the slots of a group: the reusable ones can be claimed again. -/
def release (reusable : κ → Bool) (g : Groups κ τ) (leader : κ) : Groups κ τ :=
  { g with slot := fun op => match g.slot op with
      | .group l => if l = leader then (if reusable op then .empty else .done) else .group l
      | slot => slot }

theorem isLive_iff {g : Groups κ τ} {op : κ} :
    g.isLive op = true ↔ ∃ leader, g.slot op = .group leader ∧ op ∉ (g.master leader).complete := by
  unfold isLive
  split
  · next leader h => simp [h]
  · next h => simpa using fun leader h' => absurd h' (h leader)

theorem isLive_slot {g : Groups κ τ} {op leader : κ} (h : g.slot op = .group leader) :
    g.isLive op = decide (op ∉ (g.master leader).complete) := by
  simp [isLive, h]

@[simp] theorem claim_slot_self (g : Groups κ τ) (leader op : κ) :
    (g.claim leader op).slot op = .group leader := by
  simp [claim]

theorem claim_slot_of_ne (g : Groups κ τ) (leader : κ) {op op' : κ} (h : op' ≠ op) :
    (g.claim leader op).slot op' = g.slot op' := by
  simp [claim, h]

@[simp] theorem claim_master (g : Groups κ τ) (leader op : κ) :
    (g.claim leader op).master = g.master := rfl

@[simp] theorem mark_slot (g : Groups κ τ) (leader op : κ) (success : Bool) :
    (g.mark leader op success).slot = g.slot := rfl

@[simp] theorem release_master (reusable : κ → Bool) (g : Groups κ τ) (leader : κ) :
    (g.release reusable leader).master = g.master := rfl

@[simp] theorem mark_master_self (g : Groups κ τ) (leader op : κ) (success : Bool) :
    (g.mark leader op success).master leader =
      { g.master leader with
        success := (g.master leader).success && success
        complete := insert op (g.master leader).complete } := by
  simp [mark]

theorem mark_master_of_ne (g : Groups κ τ) {leader leader' : κ} (op : κ) (success : Bool)
    (h : leader' ≠ leader) : (g.mark leader op success).master leader' = g.master leader' := by
  simp [mark, h]

theorem release_slot_group {reusable : κ → Bool} {g : Groups κ τ} {leader op l : κ} :
    (g.release reusable leader).slot op = .group l ↔ g.slot op = .group l ∧ l ≠ leader := by
  unfold release
  cases hs : g.slot op with
  | empty => simp [hs]
  | done => simp [hs]
  | group l' =>
      by_cases hl : l' = leader
      · cases hr : reusable op <;> simp +contextual [hs, hl, hr, eq_comm]
      · simp only [hs, hl, if_false, Slot.group.injEq]
        constructor
        · intro h
          exact ⟨h, h ▸ hl⟩
        · exact fun h => h.1

theorem release_slot_of_ne {reusable : κ → Bool} {g : Groups κ τ} {leader op : κ}
    (h : g.slot op ≠ .group leader) : (g.release reusable leader).slot op = g.slot op := by
  unfold release
  cases hs : g.slot op with
  | empty => simp [hs]
  | done => simp [hs]
  | group l =>
      have hl : l ≠ leader := by
        intro hl
        subst hl
        exact h hs
      simp [hs, hl]

theorem release_slot_of_eq {reusable : κ → Bool} {g : Groups κ τ} {leader op : κ}
    (h : g.slot op = .group leader) :
    (g.release reusable leader).slot op = if reusable op then .empty else .done := by
  simp [release, h]

theorem mark_isLive (g : Groups κ τ) {leader op : κ} (success : Bool) (op' : κ)
    (h : g.slot op = .group leader) :
    (g.mark leader op success).isLive op' = (g.isLive op' && decide (op' ≠ op)) := by
  cases hs : g.slot op' with
  | empty => simp [isLive, hs]
  | done => simp [isLive, hs]
  | group l =>
      have hs' : (g.mark leader op success).slot op' = .group l := hs
      rw [isLive_slot hs, isLive_slot hs']
      by_cases hl : l = leader
      · subst hl
        by_cases hop : op' = op <;> simp [hop]
      · have hop : op' ≠ op := by
          intro hop
          subst hop
          rw [hs] at h
          exact hl (Slot.group.inj h)
        simp [mark_master_of_ne g op success hl, hop]

theorem release_isLive (reusable : κ → Bool) (g : Groups κ τ) (leader op : κ) :
    (g.release reusable leader).isLive op =
      (g.isLive op && decide (g.slot op ≠ .group leader)) := by
  by_cases h : g.slot op = .group leader
  · unfold isLive
    rw [release_slot_of_eq h]
    cases hr : reusable op <;> simp [h]
  · have hs : (g.release reusable leader).slot op = g.slot op := release_slot_of_ne h
    cases hg : g.slot op with
    | empty => simp [isLive, hs.trans hg, hg]
    | done => simp [isLive, hs.trans hg, hg]
    | group l =>
        have hl : l ≠ leader := fun hl => h (hl ▸ hg)
        rw [isLive_slot (hs.trans hg), isLive_slot hg, release_master]
        simp [hl]

/-- The operations of an outstanding group point to their leader, the leader's master lists
them, and one of them has not completed. -/
structure WellFormed (g : Groups κ τ) : Prop where
  leader : ∀ op l, g.slot op = .group l → g.slot l = .group l
  need : ∀ l, g.slot l = .group l → ∀ op, op ∈ (g.master l).need ↔ g.slot op = .group l
  unfinished : ∀ l, g.slot l = .group l → (g.master l).complete ⊂ (g.master l).need

omit [DecidableEq κ] in
theorem WellFormed.claimed {g : Groups κ τ} (h : g.WellFormed) {op l : κ}
    (hop : g.slot op = .group l) :
    g.slot l = .group l ∧ op ∈ (g.master l).need ∧ (g.master l).complete ⊂ (g.master l).need := by
  have hl := h.leader op l hop
  exact ⟨hl, (h.need l hl op).mpr hop, h.unfinished l hl⟩

theorem WellFormed.setUp {g g' : Groups κ τ} (h : g.WellFormed) {leader : κ} {ops : Finset κ}
    (tag : τ) (hleader : leader ∈ ops) (hfree : ∀ op ∈ ops, g.slot op = .empty)
    (hslot : ∀ op, g'.slot op = if op ∈ ops then .group leader else g.slot op)
    (hmaster : g'.master = g.master) : (g'.setUp leader ops tag).WellFormed := by
  have hne : ∀ l, g.slot l = .group l → l ∉ ops := by
    intro l hl hmem
    rw [hfree l hmem] at hl
    simp at hl
  have hold : ∀ op l, op ∉ ops → g.slot op = .group l → l ∉ ops ∧ g.slot l = .group l := by
    intro op l _ hop
    have hl := h.leader op l hop
    exact ⟨hne l hl, hl⟩
  constructor
  · intro op l hop
    change g'.slot l = .group l
    change g'.slot op = .group l at hop
    rw [hslot] at hop ⊢
    by_cases hmem : op ∈ ops
    · rw [if_pos hmem] at hop
      have hl : leader = l := Slot.group.inj hop
      subst hl
      simp [hleader]
    · rw [if_neg hmem] at hop
      have hl := hold op l hmem hop
      simp [hl.1, hl.2]
  · intro l hl op
    change g'.slot l = .group l at hl
    change _ ↔ g'.slot op = .group l
    rw [hslot] at hl ⊢
    by_cases hll : l = leader
    · subst hll
      have hno : op ∉ ops → g.slot op ≠ .group l := by
        intro hmem hop
        exact absurd hleader (hold op l hmem hop).1
      by_cases hmem : op ∈ ops
      · simp [Groups.setUp, hmem]
      · simp [Groups.setUp, hmem, hno hmem]
    · have hmem : l ∉ ops := by
        intro hmem
        rw [if_pos hmem] at hl
        exact hll (Slot.group.inj hl).symm
      rw [if_neg hmem] at hl
      have hm : (g'.setUp leader ops tag).master l = g.master l := by
        simp [Groups.setUp, hll, hmaster]
      rw [hm, h.need l hl op]
      by_cases hop : op ∈ ops
      · rw [if_pos hop, hfree op hop]
        simp [Ne.symm hll]
      · rw [if_neg hop]
  · intro l hl
    change g'.slot l = .group l at hl
    by_cases hll : l = leader
    · subst hll
      simpa [Groups.setUp] using ⟨l, hleader⟩
    · rw [hslot] at hl
      have hmem : l ∉ ops := by
        intro hmem
        rw [if_pos hmem] at hl
        exact hll (Slot.group.inj hl).symm
      rw [if_neg hmem] at hl
      simpa [Groups.setUp, hll, hmaster] using h.unfinished l hl

theorem setUp_isLive {g g' : Groups κ τ} (h : g.WellFormed) {leader : κ} {ops : Finset κ}
    (tag : τ) (hleader : leader ∈ ops) (hfree : ∀ op ∈ ops, g.slot op = .empty)
    (hslot : ∀ op, g'.slot op = if op ∈ ops then .group leader else g.slot op)
    (hmaster : g'.master = g.master) (op : κ) :
    (g'.setUp leader ops tag).isLive op = (decide (op ∈ ops) || g.isLive op) := by
  have hs : (g'.setUp leader ops tag).slot op =
      if op ∈ ops then .group leader else g.slot op := hslot op
  by_cases hmem : op ∈ ops
  · rw [if_pos hmem] at hs
    rw [isLive_slot hs]
    simp [Groups.setUp, hmem]
  · rw [if_neg hmem] at hs
    cases hop : g.slot op with
    | empty => simp [isLive, hs.trans hop, hop, hmem]
    | done => simp [isLive, hs.trans hop, hop, hmem]
    | group l =>
        have hne : l ≠ leader := by
          intro hl
          have hlive := h.leader op l hop
          rw [hl, hfree leader hleader] at hlive
          simp at hlive
        rw [isLive_slot (hs.trans hop), isLive_slot hop]
        simp [Groups.setUp, hne, hmaster, hmem]

theorem WellFormed.mark {g : Groups κ τ} (h : g.WellFormed) {leader op : κ} (success : Bool)
    (hop : g.slot op = .group leader)
    (hmore : insert op (g.master leader).complete ≠ (g.master leader).need) :
    (g.mark leader op success).WellFormed := by
  constructor
  · exact h.leader
  · intro l hl op'
    by_cases hll : l = leader
    · subst hll
      simpa using h.need l hl op'
    · simpa [mark_master_of_ne g op success hll] using h.need l hl op'
  · intro l hl
    by_cases hll : l = leader
    · subst hll
      have hc := h.claimed hop
      rw [mark_master_self]
      refine Finset.ssubset_iff_subset_ne.mpr ⟨?_, hmore⟩
      exact Finset.insert_subset hc.2.1 hc.2.2.1
    · simpa [mark_master_of_ne g op success hll] using h.unfinished l hl

theorem WellFormed.release {g : Groups κ τ} (h : g.WellFormed) (reusable : κ → Bool)
    (leader op : κ) (success : Bool) :
    ((g.mark leader op success).release reusable leader).WellFormed := by
  have hslot : ∀ o l, ((g.mark leader op success).release reusable leader).slot o = .group l ↔
      g.slot o = .group l ∧ l ≠ leader := by
    intro o l
    rw [release_slot_group, mark_slot]
  have hm : ∀ l, l ≠ leader →
      ((g.mark leader op success).release reusable leader).master l = g.master l := by
    intro l hl
    exact mark_master_of_ne g op success hl
  constructor
  · intro o l ho
    obtain ⟨ho, hl⟩ := (hslot o l).mp ho
    exact (hslot l l).mpr ⟨h.leader o l ho, hl⟩
  · intro l hl o
    obtain ⟨hl, hne⟩ := (hslot l l).mp hl
    rw [hslot, hm l hne, h.need l hl o]
    simp [hne]
  · intro l hl
    obtain ⟨hl, hne⟩ := (hslot l l).mp hl
    rw [hm l hne]
    exact h.unfinished l hl

section Outstanding

variable [Fintype κ]

def leaders (g : Groups κ τ) : Finset κ := Finset.univ.filter fun l => g.slot l = .group l

/-- The tags of the groups that were opened and not handed over. -/
def outstanding (g : Groups κ τ) : Multiset τ := g.leaders.val.map fun l => (g.master l).tag

theorem mem_leaders {g : Groups κ τ} {l : κ} : l ∈ g.leaders ↔ g.slot l = .group l := by
  simp [leaders]

theorem outstanding_congr {g g' : Groups κ τ} (hl : g'.leaders = g.leaders)
    (hm : ∀ l ∈ g.leaders, (g'.master l).tag = (g.master l).tag) :
    g'.outstanding = g.outstanding := by
  unfold outstanding
  rw [hl]
  exact Multiset.map_congr rfl hm

theorem outstanding_setUp {g g' : Groups κ τ} {leader : κ} {ops : Finset κ} (tag : τ)
    (hleader : leader ∈ ops) (hfree : ∀ op ∈ ops, g.slot op = .empty)
    (hslot : ∀ op, g'.slot op = if op ∈ ops then .group leader else g.slot op)
    (hmaster : g'.master = g.master) :
    (g'.setUp leader ops tag).outstanding = tag ::ₘ g.outstanding := by
  have hnew : leader ∉ g.leaders := by
    rw [mem_leaders, hfree leader hleader]
    simp
  have hl : (g'.setUp leader ops tag).leaders = insert leader g.leaders := by
    ext l
    rw [mem_leaders, Finset.mem_insert, mem_leaders]
    change g'.slot l = .group l ↔ _
    rw [hslot]
    by_cases hmem : l ∈ ops
    · simp [hmem, hfree l hmem, eq_comm]
    · have hne : l ≠ leader := fun hl => hmem (hl ▸ hleader)
      simp [hmem, hne]
  unfold outstanding
  rw [hl, Finset.insert_val_of_notMem hnew, Multiset.map_cons]
  congr 1
  · simp [Groups.setUp]
  · apply Multiset.map_congr rfl
    intro l hmem
    have hne : l ≠ leader := fun hl => hnew (hl ▸ hmem)
    simp [Groups.setUp, hne, hmaster]

theorem outstanding_mark (g : Groups κ τ) (leader op : κ) (success : Bool) :
    (g.mark leader op success).outstanding = g.outstanding := by
  have hleaders : (g.mark leader op success).leaders = g.leaders := rfl
  refine outstanding_congr hleaders ?_
  intro l _
  by_cases hl : l = leader
  · subst hl
    simp
  · rw [mark_master_of_ne g op success hl]

theorem outstanding_release {g : Groups κ τ} (reusable : κ → Bool) {leader : κ}
    (hleader : g.slot leader = .group leader) :
    g.outstanding = (g.master leader).tag ::ₘ (g.release reusable leader).outstanding := by
  have hmem : leader ∈ g.leaders := mem_leaders.mpr hleader
  have hl : (g.release reusable leader).leaders = g.leaders.erase leader := by
    ext l
    rw [mem_leaders, Finset.mem_erase, mem_leaders]
    rw [release_slot_group, and_comm]
  unfold outstanding
  rw [hl, release_master, ← Multiset.map_cons (fun l => (g.master l).tag),
    Finset.erase_val, Multiset.cons_erase hmem]

end Outstanding

end Groups

end OpGroups
