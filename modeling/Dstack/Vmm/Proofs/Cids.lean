/-
A CID is one VM's, as long as no reload puts a VM into the table under a
CID that is no longer its own.

Everything about CIDs is one invariant of table and pool (`CidsOk`): no
two VMs have the same CID, and a CID of the pool's range that a VM has is
marked. A new CID was not marked, so no VM had it; a rebuilt pool has
marks for the whole table; and what is freed was the CID of the VM that
goes, or of none. The one step that takes a CID from elsewhere is a load
by a reload's listing (`Current`).
-/
import Dstack.Vmm.Cids
import Dstack.Vmm.Proofs.Deploy

namespace Dstack.Vmm

open Lib

variable {Image : Type} {s : App Image}

/-- No two VMs have one context id, and the pool knows those in use. -/
structure CidsOk (s : App Image) : Prop where
  distinct : ∀ id id' vm vm', s.vms.get? id = some vm → s.vms.get? id' = some vm' →
    vm.cid = vm'.cid → id = id'
  marked : ∀ id vm, s.vms.get? id = some vm → s.cidPool.InRange vm.cid →
    s.cidPool.allocated.mem vm.cid

def Current (s : App Image) (cid : Nat) : Prop :=
  (s.cidPool.InRange cid → s.cidPool.allocated.mem cid)
    ∧ ∀ id vm, s.vms.get? id = some vm → vm.cid ≠ cid

instance (s : App Image) (cid : Nat) : Decidable (Current s cid) :=
  decidable_of_iff ((s.cidPool.InRange cid → s.cidPool.allocated.mem cid)
      ∧ ∀ e ∈ s.vms.entries, e.2.cid ≠ cid)
    (and_congr_right fun _ => ⟨fun h id vm hvm => h (id, vm) (BTreeMap.mem_entries.mpr hvm),
      fun h e he => h e.1 e.2 (BTreeMap.mem_entries.mp he)⟩)

-- == publishing

lemma CidsOk.update {id : String} {old new : VmConfig Image} (h : CidsOk s)
    (hold : s.vms.get? id = some old) (hcid : new.cid = old.cid) :
    CidsOk { s with vms := s.vms.insert id new } := by
  have hget : ∀ id' vm', (s.vms.insert id new).get? id' = some vm' →
      ∃ vm, s.vms.get? id' = some vm ∧ vm'.cid = vm.cid := by
    intro id' vm' hvm'
    rcases BTreeMap.get?_insert_eq_some.mp hvm' with ⟨rfl, rfl⟩ | ⟨-, hvm'⟩
    · exact ⟨old, hold, hcid⟩
    · exact ⟨vm', hvm', rfl⟩
  refine ⟨?_, ?_⟩
  · intro id₁ id₂ vm₁ vm₂ h₁ h₂ hsame
    obtain ⟨vm₁', h₁', hcid₁⟩ := hget id₁ vm₁ h₁
    obtain ⟨vm₂', h₂', hcid₂⟩ := hget id₂ vm₂ h₂
    exact h.distinct id₁ id₂ vm₁' vm₂' h₁' h₂' (hcid₁.symm.trans (hsame.trans hcid₂))
  · intro id' vm' hvm' hrange
    obtain ⟨vm, hvm, hsame⟩ := hget id' vm' hvm'
    rw [hsame] at hrange ⊢
    exact h.marked id' vm hvm hrange

lemma CidsOk.enter {id : String} {new : VmConfig Image} {pool : IdPool} (h : CidsOk s)
    (hrange : IdPool.SameRange s.cidPool pool)
    (hgrows : ∀ cid, s.cidPool.allocated.mem cid → pool.allocated.mem cid)
    (hmarked : pool.InRange new.cid → pool.allocated.mem new.cid)
    (hunused : ∀ id vm, s.vms.get? id = some vm → vm.cid ≠ new.cid) :
    CidsOk { s with cidPool := pool, vms := s.vms.insert id new } := by
  refine ⟨?_, ?_⟩
  · intro id₁ id₂ vm₁ vm₂ h₁ h₂ hsame
    dsimp only at h₁ h₂
    rcases BTreeMap.get?_insert_eq_some.mp h₁ with ⟨heq₁, rfl⟩ | ⟨-, h₁⟩
    · rcases BTreeMap.get?_insert_eq_some.mp h₂ with ⟨heq₂, rfl⟩ | ⟨-, h₂⟩
      · exact heq₁.symm.trans heq₂
      · exact absurd hsame.symm (hunused id₂ vm₂ h₂)
    · rcases BTreeMap.get?_insert_eq_some.mp h₂ with ⟨-, rfl⟩ | ⟨-, h₂⟩
      · exact absurd hsame (hunused id₁ vm₁ h₁)
      · exact h.distinct id₁ id₂ vm₁ vm₂ h₁ h₂ hsame
  · intro id' vm' hvm' hin
    dsimp only at hvm' hin ⊢
    rcases BTreeMap.get?_insert_eq_some.mp hvm' with ⟨-, rfl⟩ | ⟨-, hvm'⟩
    · exact hmarked hin
    · exact hgrows _ (h.marked id' vm' hvm' (hrange.inRange.mp hin))

lemma CidsOk.publish {assigned : Option Nat} {vm : Loaded Image} (h : CidsOk s)
    (hcurrent : s.vms.get? vm.manifest.id = none → ∀ cid, assigned = some cid → Current s cid) :
    CidsOk (publish assigned vm s).2 := by
  rw [publish_eq]
  cases hold : s.vms.get? vm.manifest.id with
  | some old =>
    have hcid : cidFor s assigned vm.manifest.id = some (old.cid, s.cidPool) := by
      unfold cidFor
      rw [hold]
    rw [hcid]
    exact h.update hold rfl
  | none =>
    cases assigned with
    | some cid =>
      have hcid : cidFor s (some cid) vm.manifest.id = some (cid, s.cidPool) := by
        unfold cidFor
        rw [hold]
      obtain ⟨hmarked, hunused⟩ := hcurrent hold cid rfl
      rw [hcid]
      exact h.enter ⟨rfl, rfl⟩ (fun _ h => h) hmarked hunused
    | none =>
      have hcid : cidFor s none vm.manifest.id = s.cidPool.allocate := by
        unfold cidFor
        rw [hold]
      rw [hcid]
      cases halloc : s.cidPool.allocate with
      | none => exact h
      | some new =>
        obtain ⟨cid, pool⟩ := new
        obtain ⟨hin, hfree, rfl⟩ := IdPool.allocate_eq_some halloc
        refine h.enter ⟨rfl, rfl⟩ (fun _ h => BTreeSet.mem_add.mpr (.inr h))
          (fun _ => BTreeSet.mem_add.mpr (.inl rfl)) ?_
        -- a VM that had it would have it marked
        rintro id' vm' hvm' rfl
        exact hfree (h.marked id' vm' hvm' hin)

-- == releasing

lemma CidsOk.release (h : CidsOk s) (id : String) : CidsOk (release s id) := by
  have hget : ∀ id' vm', (Vmm.release s id).vms.get? id' = some vm' →
      id ≠ id' ∧ s.vms.get? id' = some vm' := fun _ _ => BTreeMap.get?_erase_eq_some.mp
  refine ⟨?_, ?_⟩
  · intro id₁ id₂ vm₁ vm₂ h₁ h₂ hsame
    exact h.distinct id₁ id₂ vm₁ vm₂ (hget id₁ vm₁ h₁).2 (hget id₂ vm₂ h₂).2 hsame
  · intro id' vm' hvm' hin
    obtain ⟨hne, hvm'⟩ := hget id' vm' hvm'
    unfold Vmm.release at hin ⊢
    cases hold : s.vms.get? id with
    | none =>
      rw [hold] at hin
      exact h.marked id' vm' hvm' hin
    | some old =>
      rw [hold] at hin
      refine IdPool.mem_free.mpr ⟨fun hsame => hne ?_, h.marked id' vm' hvm' hin⟩
      exact h.distinct id id' old vm' hold hvm' hsame

lemma CidsOk.congr {s' : App Image} (h : CidsOk s) (hvms : s'.vms = s.vms)
    (hpool : s'.cidPool = s.cidPool) : CidsOk s' := by
  refine ⟨?_, ?_⟩
  · rw [hvms]
    exact h.distinct
  · rw [hvms, hpool]
    exact h.marked

lemma CidsOk.repool {pool : IdPool} (h : CidsOk s) (hrange : IdPool.SameRange s.cidPool pool)
    (hmarked : ∀ id vm, s.vms.get? id = some vm → s.cidPool.InRange vm.cid →
      pool.allocated.mem vm.cid) : CidsOk { s with cidPool := pool } := by
  refine ⟨h.distinct, fun id vm hvm hin => ?_⟩
  exact hmarked id vm hvm (hrange.inRange.mp hin)

lemma mem_cidsInTable {cid : Nat} :
    cid ∈ cidsInTable s ↔ ∃ id vm, s.vms.get? id = some vm ∧ vm.cid = cid := by
  unfold cidsInTable
  rw [List.mem_map]
  constructor
  · rintro ⟨⟨id, vm⟩, hmem, hcid⟩
    exact ⟨id, vm, BTreeMap.mem_entries.mp hmem, hcid⟩
  · rintro ⟨id, vm, hvm, hcid⟩
    exact ⟨(id, vm), BTreeMap.mem_entries.mpr hvm, hcid⟩

lemma CidsOk.freeOrphans (h : CidsOk s) (existing : List Nat) :
    CidsOk (freeOrphans existing s) := by
  obtain ⟨hrange, hmem⟩ := IdPool.freeAll_spec s.cidPool
    (existing.filter (· ∉ cidsInTable s))
  refine h.repool hrange fun id vm hvm hin => ?_
  refine (hmem vm.cid).mpr ⟨h.marked id vm hvm hin, fun horphan => ?_⟩
  rw [List.mem_filter, decide_eq_true_eq] at horphan
  exact horphan.2 (mem_cidsInTable.mpr ⟨id, vm, hvm, rfl⟩)

-- == rebuilding

lemma contains_foldl_insert {β κ : Type} [LinearOrder κ] {α : Type} (f : β → κ × α) (l : List β)
    (m : BTreeMap κ α) (k : κ) :
    ((l.foldl (fun m b => m.insert (f b).1 (f b).2) m).get? k).isSome = true ↔
      (m.get? k).isSome = true ∨ ∃ b ∈ l, (f b).1 = k := by
  induction l generalizing m with
  | nil => simp
  | cons b l ih =>
    rw [List.foldl_cons, ih, BTreeMap.get?_insert]
    by_cases hk : (f b).1 = k
    · simp [hk]
    · simp [hk]

lemma mem_keys {κ α : Type} [LinearOrder κ] {m : BTreeMap κ α} {k : κ} :
    k ∈ m.entries.map Prod.fst ↔ (m.get? k).isSome = true := by
  rw [List.mem_map, Option.isSome_iff_exists]
  constructor
  · rintro ⟨⟨k', a⟩, hmem, rfl⟩
    exact ⟨a, BTreeMap.mem_entries.mp hmem⟩
  · rintro ⟨a, ha⟩
    exact ⟨(k, a), BTreeMap.mem_entries.mpr ha, rfl⟩

lemma mem_cidsToReserve {occupied : BTreeMap String Nat} {id : String} {vm : VmConfig Image}
    (h : s.vms.get? id = some vm) :
    vm.cid ∈ (cidsToReserve occupied s.vms).entries.map Prod.fst := by
  rw [mem_keys, cidsToReserve,
    contains_foldl_insert (fun e : String × Nat => (e.2, e.1)) occupied.entries _ vm.cid]
  refine .inl ((contains_foldl_insert (fun e => e) _ _ _).mpr (.inr ?_))
  exact ⟨(vm.cid, id), List.mem_map.mpr ⟨(id, vm), BTreeMap.mem_entries.mpr h, rfl⟩, rfl⟩

lemma CidsOk.rebuildPool (h : CidsOk s) (occupied : BTreeMap String Nat) :
    CidsOk (rebuildPool occupied s) := by
  obtain ⟨hrange, hmem⟩ := IdPool.occupyAll_spec s.cidPool.clear
    ((cidsToReserve occupied s.vms).entries.map Prod.fst)
  refine h.repool hrange fun id vm hvm hin => ?_
  exact (hmem vm.cid).mpr (.inr ⟨hin, mem_cidsToReserve hvm⟩)

-- == runs

def CidTask.Careful (s : App Image) : CidTask Image → Prop
  | .found occupied _ vm => s.vms.get? vm.manifest.id = none →
      ∀ cid ∈ occupied.get? vm.manifest.id, Current s cid
  | _ => True

instance (s : App Image) : (task : CidTask Image) → Decidable (task.Careful s)
  | .found occupied _ vm => inferInstanceAs (Decidable (s.vms.get? vm.manifest.id = none →
      ∀ cid ∈ occupied.get? vm.manifest.id, Current s cid))
  | .loading _ | .removing _ | .listed _ | .rebuilt _ | .scanning _ _ => isTrue trivial

namespace CidWorld

variable {w : CidWorld Image} {t : Nat}

/-- A reload that goes on with a VM that is no longer in the table has a
current context id for it. -/
def Careful (w : CidWorld Image) : CidEvent Image → Prop
  | .go t => ∀ task ∈ w.tasks.get? t, task.Careful w.app
  | _ => True

instance (w : CidWorld Image) : (e : CidEvent Image) → Decidable (Careful w e)
  | .go t => inferInstanceAs (Decidable (∀ task ∈ w.tasks.get? t, CidTask.Careful w.app task))
  | .write _ | .load _ _ _ | .remove _ _ | .reload _ _ | .scan _ _ _ | .quit _ => isTrue trivial

lemma app_reads (host : Host Image) (id : String) (next : Loaded Image → CidTask Image) :
    (w.reads t host id next).app = w.app := by
  unfold reads
  split
  · rfl
  · rfl

lemma cidsOk_step {e : CidEvent Image} (h : CidsOk w.app) (hcareful : Careful w e) :
    CidsOk (w.step e).app := by
  cases e with
  | write dirs => exact h.congr rfl rfl
  | load t host id =>
    show CidsOk (w.reads t host id _).app
    rw [app_reads]
    exact h
  | remove t id =>
    show CidsOk (w.claim t id).app
    unfold claim
    split
    · exact h
    · exact h.congr rfl rfl
  | reload t occupied => exact h
  | scan t host id =>
    dsimp only [step]
    split
    · rw [app_reads]
      exact h
    · exact h
  | go t =>
    dsimp only [step]
    cases htask : w.tasks.get? t with
    | none => exact h
    | some task =>
      cases task with
      | loading vm => exact h.publish fun _ _ hnone => (nomatch hnone)
      | removing id => exact (h.release id).congr rfl rfl
      | listed occupied => exact h.rebuildPool occupied
      | rebuilt occupied => exact h
      | scanning occupied existing => exact h.freeOrphans existing
      | found occupied existing vm => exact h.publish (hcareful _ htask)
  | quit t =>
    show CidsOk (w.quit t).app
    unfold quit
    split
    · exact h.congr rfl rfl
    · exact h

end CidWorld

lemma CidsOk.vmOfCid {id : String} {vm : VmConfig Image} (h : CidsOk s)
    (hvm : s.vms.get? id = some vm) : vmOfCid s vm.cid = some id := by
  unfold Vmm.vmOfCid
  generalize hfind : List.find? _ s.vms.entries = found
  cases found with
  | none =>
    have hnot := List.find?_eq_none.mp hfind (id, vm) (BTreeMap.mem_entries.mpr hvm)
    exact absurd (decide_eq_true rfl) hnot
  | some e =>
    obtain ⟨id', vm'⟩ := e
    have hfound := List.find?_some hfind
    have hcid : vm'.cid = vm.cid := of_decide_eq_true hfound
    have hvm' := BTreeMap.mem_entries.mp (List.mem_of_find?_eq_some hfind)
    rw [h.distinct id id' vm vm' hvm hvm' hcid.symm]
    rfl

/-- In every run in which no reload enters a VM under a CID that is not
its any more, CIDs stay distinct and marked, and events of guests reach
the VM whose CID they come from. -/
theorem cids_identify_vms (s : App Image) (hs : CidsOk s) (events : List (CidEvent Image))
    (hcareful : Along CidWorld.step CidWorld.Careful { app := s } events) :
    CidsOk (events.foldl CidWorld.step { app := s }).app
      ∧ ∀ id vm, (events.foldl CidWorld.step { app := s }).app.vms.get? id = some vm →
          vmOfCid (events.foldl CidWorld.step { app := s }).app vm.cid = some id := by
  have hok : CidsOk (events.foldl CidWorld.step { app := s }).app :=
    hcareful.foldl (P := fun w => CidsOk w.app) (fun _ _ => CidWorld.cidsOk_step) hs
  exact ⟨hok, fun id vm hvm => hok.vmOfCid hvm⟩

-- == examples

def webDir (id : String) : WorkDir :=
  { manifest := (storedManifest afterCreate).map fun m => { m with id := id }
    compose := some plainCompose }

def webDirs (ids : List String) : BTreeMap String WorkDir :=
  BTreeMap.ofList (ids.map fun id => (id, webDir id))

def firstVm : List (CidEvent String) :=
  [.write (webDirs ["web-1"]), .load 0 quietHost "web-1", .go 0]

def listing : BTreeMap String Nat := BTreeMap.ofList [("web-1", 1000)]

/-- A reload has read a VM that is then removed, and loads it when another VM
is there. -/
def reloadAcrossRemoval : List (CidEvent String) :=
  firstVm
    ++ [.reload 1 listing, .go 1, .go 1, .scan 1 quietHost "web-1"]
    ++ [.remove 2 "web-1", .write (webDirs []), .go 2]
    ++ [.write (webDirs ["web-2"]), .load 3 quietHost "web-2", .go 3]
    ++ [.go 1]

/-- The context id of a VM. -/
def cidOf (s : App String) (id : String) : Option Nat := (s.vms.get? id).map (·.cid)

lemma noVms_cidsOk : CidsOk noVms := by
  have hnone : ∀ id, noVms.vms.get? id = none := fun id => BTreeMap.get?_empty id
  refine ⟨?_, ?_⟩
  · intro id id' vm vm' hvm
    rw [hnone] at hvm
    cases hvm
  · intro id vm hvm
    rw [hnone] at hvm
    cases hvm

/-- The VM that was removed and a new one have one context id. -/
theorem cid_of_two_vms :
    CidsOk noVms
      ∧ cidOf (reloadAcrossRemoval.foldl CidWorld.step { app := noVms }).app "web-1" = some 1000
      ∧ cidOf (reloadAcrossRemoval.foldl CidWorld.step { app := noVms }).app "web-2"
          = some 1000 := by
  refine ⟨noVms_cidsOk, ?_, ?_⟩
  all_goals decide +kernel

def reloadOfRunning : List (CidEvent String) :=
  [.write (webDirs ["web-1"]), .reload 1 listing, .go 1, .go 1, .scan 1 quietHost "web-1", .go 1,
    .go 1, .write (webDirs ["web-1", "web-2"]), .load 3 quietHost "web-2", .go 3]

/-- A reload of a running VM, and another VM loaded after it. -/
theorem reloadOfRunning_identifies :
    CidsOk (reloadOfRunning.foldl CidWorld.step { app := noVms }).app
      ∧ cidOf (reloadOfRunning.foldl CidWorld.step { app := noVms }).app "web-1" = some 1000
      ∧ cidOf (reloadOfRunning.foldl CidWorld.step { app := noVms }).app "web-2" = some 1001 := by
  refine ⟨(cids_identify_vms noVms noVms_cidsOk reloadOfRunning ?_).1, ?_, ?_⟩
  all_goals decide +kernel

end Dstack.Vmm
