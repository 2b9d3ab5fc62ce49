/-
A rejected update changes nothing, unless it was rejected by the load
behind its writes; and what is stored keeps the rules of a deployment,
unless an update or a resize brings in what only a new VM is asked about.

An update looks first and writes afterwards (`readOnly_plannedUpdate`),
so a refusal from the first half leaves everything as it was. The second
half can refuse too: the image's name and contents, the compose file and
the supply of CIDs are looked at when the new files are loaded, and by
then they are there. On a host where nothing fails that is the only way
(`updateVm_of_planned`).

The rules are about one directory (`DirOk`), and every write is a change
of one directory. So a call keeps them if each file it writes does, also
when it is cut off by a failing operation.
-/
import Dstack.Lib.Along
import Dstack.Lib.Triple
import Dstack.Vmm.Deploy

namespace Dstack.Vmm

open Lib Lib.Stateful

variable {Image : Type} {host : Host Image} {cfg : CvmConfig}

-- == looking only

/-- A computation that leaves the state. -/
abbrev ReadOnly {α : Type} (x : Stateful (App Image) α) : Prop := Keeps Eq x

lemma readOnly_attempt (op : HostOp) : ReadOnly (attempt host op) := .lift _

lemma readOnly_manifestOf (op : HostOp) (id : String) : ReadOnly (manifestOf host op id) :=
  (readOnly_attempt op).bind fun _ => .inspect _

lemma readOnly_composeOf (op : HostOp) (id : String) : ReadOnly (composeOf host op id) :=
  (readOnly_attempt op).bind fun _ => .inspect _

lemma readOnly_applyResourceUpdates (id : String) (manifest : Manifest)
    (vcpu memory diskSize : Option Nat) (image : Option String) :
    ReadOnly (applyResourceUpdates host id manifest vcpu memory diskSize image) := by
  refine .ite (.pure _) (.bind ((readOnly_attempt _).bind fun _ => .inspect _) fun _ => ?_)
  exact .bind (.lift _) fun _ => .bind (.lift _) fun _ => .lift _

lemma readOnly_growDiskIfNeeded (id : String) (manifest : Manifest) (oldSize : Nat) :
    ReadOnly (growDiskIfNeeded host id manifest oldSize) :=
  .ite (.pure _) (readOnly_attempt _)

lemma readOnly_checkCompose (request : UpdateVmRequest) (manifest : Manifest) :
    ReadOnly (checkCompose host request manifest) := by
  refine .ite (.pure _) (.bind (.lift _) fun _ => ?_)
  exact .bind (.inspect _) fun _ => .bind (.lift _) fun _ => .pure _

lemma readOnly_composeAfter (request : UpdateVmRequest) :
    ReadOnly (composeAfter host request) :=
  .ite (readOnly_composeOf _ _) (.pure _)

lemma readOnly_releaseInterfaces (request : UpdateVmRequest) :
    ReadOnly (releaseInterfaces host request) := by
  refine .ite ((readOnly_attempt _).bind fun _ => ?_) (.pure _)
  exact .ite (readOnly_attempt _) (.pure _)

lemma readOnly_heldManifest (id : String) : ReadOnly (heldManifest host id) :=
  .bind (.inspect _) fun _ => .bind (.lift _) fun _ => readOnly_manifestOf _ _

lemma readOnly_planUpdate (request : UpdateVmRequest) (manifest : Manifest) :
    ReadOnly (planUpdate host cfg request manifest) := by
  refine (readOnly_checkCompose _ _).bind fun _ => ?_
  refine (readOnly_applyResourceUpdates _ _ _ _ _ _).bind fun _ => ?_
  refine .bind (.inspect _) fun _ => (readOnly_composeAfter _).bind fun _ => ?_
  refine .bind (.lift _) fun _ => (readOnly_growDiskIfNeeded _ _ _).bind fun _ => ?_
  exact (readOnly_releaseInterfaces _).bind fun _ => .pure _

lemma readOnly_plannedUpdate (request : UpdateVmRequest) :
    ReadOnly (plannedUpdate host cfg request) :=
  (readOnly_heldManifest _).bind fun _ => readOnly_planUpdate _ _

lemma readOnly_admitNew (id : String) (now : Nat) (request : VmConfiguration) :
    ReadOnly (admitNew host cfg id now request) :=
  .bind (.lift _) fun _ => .bind (.inspect _) fun _ => .bind (.lift _) fun _ => .pure _

lemma readOnly_readVm (id : String) : ReadOnly (readVm host id) := by
  refine (readOnly_manifestOf _ _).bind fun _ => .bind (.lift _) fun _ => ?_
  refine (readOnly_attempt _).bind fun _ => .bind (.lift _) fun _ => ?_
  exact (readOnly_composeOf _ _).bind fun _ => .bind (.lift _) fun _ => .pure _

-- == writing

def setDir (s : App Image) (id : String) (write : WorkDir → WorkDir) : App Image :=
  { s with dirs := s.dirs.insert id (write ((s.dirs.get? id).getD {})) }

lemma setDir_setDir (s : App Image) (id : String) (f g : WorkDir → WorkDir) :
    setDir (setDir s id f) id g = setDir s id fun dir => g (f dir) := by
  simp [setDir, BTreeMap.insert_insert]

lemma store_eq (op : HostOp) (id : String) (write : WorkDir → WorkDir) (s : App Image) :
    store host op id write s = match host.fails op with
      | some error => (.error error, s)
      | none => (.ok (), setDir s id write) := by
  unfold store attempt
  cases host.fails op <;> rfl

/-- Nothing fails on the host. -/
def Calm (host : Host Image) : Prop := ∀ op, host.fails op = none

lemma runs_store (hcalm : Calm host) (op : HostOp) (id : String) (write : WorkDir → WorkDir)
    (s : App Image) : Runs (store host op id write) s () (setDir s id write) := by
  rw [Runs, store_eq, hcalm op]

lemma runs_storeIf (hcalm : Calm host) (c : Bool) (op : HostOp) (id : String)
    (write : WorkDir → WorkDir) (s : App Image) :
    Runs (storeIf host c op id write) s () (if c then setDir s id write else s) := by
  cases c with
  | false => rfl
  | true => exact runs_store hcalm op id write s

def writtenDir (request : UpdateVmRequest) (manifest : Manifest) (dir : WorkDir) : WorkDir :=
  let dir := if decide (request.composeFile ≠ "") then
    { dir with compose := some request.composeFile } else dir
  let dir := if decide (request.encryptedEnv ≠ []) then
    { dir with encryptedEnv := some request.encryptedEnv } else dir
  let dir := if decide (request.userConfig ≠ "") then
    { dir with userConfig := some request.userConfig } else dir
  { dir with manifest := some manifest }

lemma setDir_ite (c : Bool) (s : App Image) (id : String) (f g : WorkDir → WorkDir) :
    setDir (if c then setDir s id f else s) id g
      = setDir s id fun dir => g (if c then f dir else dir) := by
  cases c with
  | false => rfl
  | true => exact setDir_setDir s id f g

lemma runs_writeUpdate (hcalm : Calm host) (request : UpdateVmRequest) (manifest : Manifest)
    (s : App Image) :
    Runs (writeUpdate host request manifest) s ()
      (setDir s request.id (writtenDir request manifest)) := by
  refine runs_bind.mpr ⟨(), _, runs_storeIf hcalm _ _ _ _ s, ?_⟩
  refine runs_bind.mpr ⟨(), _, runs_storeIf hcalm _ _ _ _ _, ?_⟩
  refine runs_bind.mpr ⟨(), _, runs_storeIf hcalm _ _ _ _ _, ?_⟩
  convert runs_store hcalm .putManifest request.id _ _ using 1
  rw [setDir_ite, setDir_ite, setDir_ite]
  rfl

-- == loading

def Loadable (host : Host Image) (s : App Image) (manifest : Manifest) (compose : Option String) :
    Prop :=
  validateImageName host.around manifest.image = .ok ()
    ∧ (∃ image, host.image manifest.image = .ok image)
    ∧ (∃ text appCompose, compose = some text
      ∧ host.around.json.appCompose text = .ok appCompose)
    ∧ (cidFor s none manifest.id).isSome = true

lemma publish_eq (assigned : Option Nat) (vm : Loaded Image) (s : App Image) :
    publish assigned vm s = match cidFor s assigned vm.manifest.id with
      | none => (.error "CID pool exhausted", s)
      | some (cid, pool) => (.ok (), { s with
          cidPool := pool
          vms := s.vms.insert vm.manifest.id
            ⟨vm.manifest, vm.image, cid, vm.gatewayEnabled⟩ }) := by
  unfold publish Stateful.update
  dsimp only
  cases cidFor s assigned vm.manifest.id <;> rfl

lemma loadVm_failed (host : Host Image) (id : String) (s : App Image) :
    Triple (· = s) (loadVm host id) (fun _ s' => s'.dirs = s.dirs) (· = s) := by
  refine Triple.bind (.of_keeps (readOnly_readVm id) fun _ _ hs h => h ▸ hs) fun vm => ?_
  intro s₁ hs
  rw [hs, publish_eq]
  cases cidFor s none vm.manifest.id <;> rfl

variable {s : App Image}

lemma runs_loadVm_iff (hcalm : Calm host) {id : String} :
    (∃ s', Runs (loadVm host id) s () s') ↔
      ∃ dir manifest, s.dirs.get? id = some dir ∧ dir.manifest = some manifest
        ∧ Loadable host s manifest dir.compose := by
  have hattempt : ∀ (op : HostOp) {u : Unit} {s s' : App Image},
      Runs (attempt host op) s u s' ↔ s = s' := by
    intro op u s s'
    rw [attempt, hcalm op, runs_lift]
    simp
  simp only [loadVm, readVm, manifestOf, composeOf, publish, runs_bind, runs_pure, hattempt,
    runs_inspect, runs_lift, runs_update, ok_iff, Loadable]
  constructor
  · rintro ⟨_, _, _, ⟨manifest, _, ⟨_, _, rfl, hmanifest, rfl⟩, _, _, ⟨hname, rfl⟩, _, _, rfl,
      image, _, ⟨himage, rfl⟩, text, _, ⟨_, _, rfl, htext, rfl⟩, appCompose, _, ⟨hcompose, rfl⟩,
      rfl, rfl⟩, cid, hcid, -⟩
    obtain ⟨dir, hdir, hmanifest⟩ := Option.bind_eq_some_iff.mp hmanifest
    rw [hdir, Option.bind_some] at htext
    exact ⟨dir, manifest, hdir, hmanifest, hname, ⟨image, himage⟩,
      ⟨text, appCompose, htext, hcompose⟩, by rw [hcid]; rfl⟩
  · rintro ⟨dir, manifest, hdir, hmanifest, hname, ⟨image, himage⟩,
      ⟨text, appCompose, htext, hcompose⟩, hcid⟩
    obtain ⟨cid, hcid⟩ := Option.isSome_iff_exists.mp hcid
    refine ⟨_, _, _, ⟨manifest, _, ⟨(), _, rfl, ?_, rfl⟩, (), _, ⟨hname, rfl⟩, (), _, rfl, image, _,
      ⟨himage, rfl⟩, text, _, ⟨(), _, rfl, ?_, rfl⟩, appCompose, _, ⟨hcompose, rfl⟩, rfl, rfl⟩, cid,
      hcid, rfl⟩
    · rw [hdir, Option.bind_some, hmanifest]
    · rw [hdir, Option.bind_some, htext]

-- == updates

/-- The directories and the VMs are as before. -/
def Unchanged (s s' : App Image) : Prop := s'.dirs = s.dirs ∧ s'.vms = s.vms

/-- What an update writes can be loaded, or is what was there. -/
def ReadsBack (host : Host Image) (request : UpdateVmRequest) (s : App Image)
    (manifest : Manifest) : Prop :=
  let dir := writtenDir request manifest ((s.dirs.get? request.id).getD {})
  Loadable host s manifest dir.compose ∨ s.dirs.get? request.id = some dir

variable {request : UpdateVmRequest}

lemma updateVm_of_planned (hcalm : Calm host) {newId : String} {manifest : Manifest}
    (hplan : (plannedUpdate host cfg request s).1 = .ok (newId, manifest)) :
    ((∃ e, (updateVm host cfg request s).1 = .error e) ↔
        ¬Loadable host s manifest
          (writtenDir request manifest ((s.dirs.get? request.id).getD {})).compose)
      ∧ (∀ e, (updateVm host cfg request s).1 = .error e → (updateVm host cfg request s).2
          = setDir s request.id (writtenDir request manifest)) := by
  have hruns : Runs (plannedUpdate host cfg request) s (newId, manifest) s :=
    Prod.ext hplan (readOnly_plannedUpdate request s).symm
  -- with the plan made and the files written, only the load is left
  have heq : updateVm host cfg request s
      = ((loadVm host request.id).context "Failed to load VM" >>= fun _ => pure newId)
          (setDir s request.id (writtenDir request manifest)) := by
    rw [updateVm, hruns.bind_eq]
    exact (runs_writeUpdate hcalm request manifest s).bind_eq _
  generalize hs₁ : setDir s request.id (writtenDir request manifest) = s₁ at heq ⊢
  have hload : (∃ s', Runs (loadVm host request.id) s₁ () s') ↔ Loadable host s manifest
      (writtenDir request manifest ((s.dirs.get? request.id).getD {})).compose := by
    rw [runs_loadVm_iff hcalm, ← hs₁]
    constructor
    · rintro ⟨dir, m, hdir, hm, h⟩
      rw [setDir, BTreeMap.get?_insert_self] at hdir
      cases hdir
      cases hm
      exact h
    · exact fun h => ⟨_, manifest, BTreeMap.get?_insert_self _ _ _, rfl, h⟩
  have hfailed := loadVm_failed host request.id s₁ s₁ rfl
  rw [← hload, heq]
  rcases hr : loadVm host request.id s₁ with ⟨r, s'⟩
  rw [hr] at hfailed
  cases r with
  | ok u =>
    have hok : ((loadVm host request.id).context "Failed to load VM" >>= fun _ => pure newId) s₁
        = (.ok newId, s') :=
      Runs.bind_eq (runs_context.mpr hr) _
    rw [hok]
    refine ⟨⟨?_, fun h => absurd ⟨s', hr⟩ h⟩, fun e he => nomatch he⟩
    rintro ⟨e, he⟩
    cases he
  | error e =>
    have hcontext : (loadVm host request.id).context "Failed to load VM" s₁
        = (.error ("Failed to load VM" ++ ": " ++ e), s') := by
      rw [Stateful.context, hr]
      rfl
    rw [bind_eq_of_error hcontext]
    refine ⟨⟨fun _ ⟨s'', hs''⟩ => ?_, fun _ => ⟨_, rfl⟩⟩, fun _ _ => hfailed⟩
    rw [Runs, hr] at hs''
    cases hs''

lemma rejected_unchanged_iff (hcalm : Calm host) (request : UpdateVmRequest) (s : App Image) :
    ((∃ e, (updateVm host cfg request s).1 = .error e) →
        Unchanged s (updateVm host cfg request s).2)
      ↔ ∀ newId manifest, (plannedUpdate host cfg request s).1 = .ok (newId, manifest) →
          ReadsBack host request s manifest := by
  have hsame : s = (plannedUpdate host cfg request s).2 := readOnly_plannedUpdate request s
  cases hplan : (plannedUpdate host cfg request s).1 with
  | error e =>
    refine ⟨fun _ _ _ h => (nomatch h), fun _ _ => ?_⟩
    have herror : plannedUpdate host cfg request s = (.error e, s) := Prod.ext hplan hsame.symm
    rw [updateVm, bind_eq_of_error herror]
    exact ⟨rfl, rfl⟩
  | ok plan =>
    obtain ⟨newId, manifest⟩ := plan
    obtain ⟨hrejected, hwritten⟩ := updateVm_of_planned hcalm hplan
    have hchanged : ∀ e, (updateVm host cfg request s).1 = .error e →
        (Unchanged s (updateVm host cfg request s).2 ↔ s.dirs.get? request.id
          = some (writtenDir request manifest ((s.dirs.get? request.id).getD {}))) := by
      intro e he
      rw [hwritten e he, ← BTreeMap.insert_eq_self]
      exact and_iff_left rfl
    constructor
    · rintro hunchanged _ _ ⟨⟩
      by_cases hload : Loadable host s manifest
          (writtenDir request manifest ((s.dirs.get? request.id).getD {})).compose
      · exact .inl hload
      · obtain ⟨e, he⟩ := hrejected.mpr hload
        exact .inr ((hchanged e he).mp (hunchanged ⟨e, he⟩))
    · rintro hreads ⟨e, he⟩
      rcases hreads newId manifest rfl with hload | hthere
      · exact absurd hload (hrejected.mp ⟨e, he⟩)
      · exact (hchanged e he).mpr hthere

-- == rules

def ImageNameOk (isAlphanumeric : Char → Bool) (image : String) : Prop :=
  (utf8 image).length ≤ 64 ∧ containsText image ".." = false
    ∧ image.toList.all (fun c => isAlphanumeric c || c = '_' || c = '-' || c = '.') = true

lemma validateImageName_eq_ok {around : Surroundings} {image : String} :
    validateImageName around image = .ok () ↔ ImageNameOk around.isAlphanumeric image := by
  rw [validateImageName, ensure_eq_ok]
  rfl

section Rules

variable (json : ComposeJson) (isAlphanumeric : Char → Bool)

/-- What a manifest may ask for, and with which compose file. -/
structure DirOk (dir : WorkDir) : Prop where
  resources : ∀ m, dir.manifest = some m → 0 < m.vcpu ∧ 0 < m.memory ∧ 0 < m.diskSize
  image : ∀ m, dir.manifest = some m → ImageNameOk isAlphanumeric m.image
  prealloc : ∀ m, dir.manifest = some m → m.diskPrealloc.reservesDataBlocks = true →
    ∀ text, dir.compose = some text → storageDiscardFromCompose json text ≠ .ok true

/-- Every directory keeps to this. -/
def Rules (s : App Image) : Prop :=
  ∀ id dir, s.dirs.get? id = some dir → DirOk json isAlphanumeric dir

end Rules

def dirOf (s : App Image) (id : String) : WorkDir := (s.dirs.get? id).getD {}

variable {json : ComposeJson} {isAlphanumeric : Char → Bool}

lemma dirOk_empty : DirOk json isAlphanumeric {} := by
  refine ⟨?_, ?_, ?_⟩
  all_goals
    intro m hm
    cases hm

def Frame (id : String) (s s' : App Image) : Prop :=
  ∀ id', id ≠ id' → s'.dirs.get? id' = s.dirs.get? id'

lemma Frame.refl (id : String) (s : App Image) : Frame id s s := fun _ _ => rfl

lemma Frame.trans {id : String} {s₁ s₂ s₃ : App Image} (h₁ : Frame id s₁ s₂)
    (h₂ : Frame id s₂ s₃) : Frame id s₁ s₃ :=
  fun id' h => (h₂ id' h).trans (h₁ id' h)

variable {s' : App Image}

lemma Rules.of_frame {id : String} (h : Rules json isAlphanumeric s)
    (hs : Frame id s s' ∧ DirOk json isAlphanumeric (dirOf s' id)) :
    Rules json isAlphanumeric s' := by
  obtain ⟨hframe, hdir⟩ := hs
  intro id' dir hget
  by_cases hid : id = id'
  · rw [← hid] at hget
    rw [dirOf, hget] at hdir
    exact hdir
  · rw [hframe id' hid] at hget
    exact h id' dir hget

lemma Rules.dirOf (h : Rules json isAlphanumeric s) (id : String) :
    DirOk json isAlphanumeric (dirOf s id) := by
  unfold Vmm.dirOf
  cases hget : s.dirs.get? id with
  | none => exact dirOk_empty
  | some dir => exact h id dir hget

lemma dirOf_setDir (s : App Image) (id : String) (write : WorkDir → WorkDir) :
    dirOf (setDir s id write) id = write (dirOf s id) := by
  rw [dirOf, setDir, BTreeMap.get?_insert_self]
  rfl

lemma frame_setDir (s : App Image) (id : String) (write : WorkDir → WorkDir) :
    Frame id s (setDir s id write) :=
  fun _ h => BTreeMap.get?_insert_of_ne h

lemma frame_of_dirs {id : String} (h : s'.dirs = s.dirs) : Frame id s s' := fun _ _ => by rw [h]

lemma dirOf_of_dirs (h : s'.dirs = s.dirs) (id : String) : dirOf s' id = dirOf s id := by
  rw [dirOf, h, dirOf]

-- == one directory

/-- The computation changes no directory but that of `id`, and takes it
from `P` to `Q`, or to `E` if it fails. -/
def Edits {α : Type} (id : String) (P : WorkDir → Prop) (x : Stateful (App Image) α)
    (Q E : WorkDir → Prop) : Prop :=
  ∀ before, Triple (fun s => Frame id before s ∧ P (dirOf s id)) x
    (fun _ s => Frame id before s ∧ Q (dirOf s id)) fun s => Frame id before s ∧ E (dirOf s id)

section Edits

variable {α β : Type} {id : String} {P P' Q Q' R E E' : WorkDir → Prop}
  {x : Stateful (App Image) α} {f : α → Stateful (App Image) β}

lemma Edits.pure (a : α) : Edits id P (pure a : Stateful (App Image) α) P E :=
  fun _ => .pure fun _ hs => hs

lemma Edits.bind (hx : Edits id P x Q E) (hf : ∀ a, Edits id Q (f a) R E) :
    Edits id P (x >>= f) R E :=
  fun before => (hx before).bind fun a => hf a before

lemma Edits.conseq (hx : Edits id P x Q E) (hP : ∀ dir, P' dir → P dir)
    (hQ : ∀ dir, Q dir → Q' dir) (hE : ∀ dir, E dir → E' dir) : Edits id P' x Q' E' :=
  fun before => (hx before).conseq (fun _ hs => hs.imp_right (hP _))
    (fun _ _ hs => hs.imp_right (hQ _)) fun _ hs => hs.imp_right (hE _)

lemma Edits.pre (hx : Edits id P x Q E) (h : ∀ dir, P' dir → P dir) : Edits id P' x Q E :=
  hx.conseq h (fun _ h => h) fun _ h => h

lemma Edits.failed (hx : Edits id P x Q E) (h : ∀ dir, E dir → E' dir) : Edits id P x Q E' :=
  hx.conseq (fun _ h => h) (fun _ h => h) h

lemma Edits.context (hx : Edits id P x Q E) (c : String) : Edits id P (x.context c) Q E :=
  fun before => (hx before).context c

/-- What was looked at first is known of the directory that is changed. -/
lemma Edits.look (hx : ReadOnly x) (hE : ∀ dir, P dir → E dir)
    (hf : ∀ a s, P (dirOf s id) → Runs x s a s → Edits id (· = dirOf s id) (f a) Q E) :
    Edits id P (x >>= f) Q E := by
  rintro before s ⟨hframe, hs⟩
  rcases hr : x s with ⟨r, s'⟩
  have hsame := hx s
  rw [hr] at hsame
  obtain rfl : s = s' := hsame
  cases r with
  | ok a =>
    rw [Runs.bind_eq hr]
    exact hf a s hs hr before s ⟨hframe, rfl⟩
  | error e =>
    rw [bind_eq_of_error hr]
    exact ⟨hframe, hE _ hs⟩

lemma Edits.always (hx : Edits id P x E E) (hs : P (dirOf s id)) :
    Frame id s (x s).2 ∧ E (dirOf (x s).2 id) :=
  (hx s).always ⟨Frame.refl id s, hs⟩

end Edits

lemma not_calm_of_fails {op : HostOp} {e : String} (h : host.fails op = some e) :
    ¬Calm host := by
  intro hcalm
  rw [hcalm op] at h
  cases h

variable {P : WorkDir → Prop}

section Store

variable {id : String}

lemma edits_attempt (op : HostOp) :
    Edits id P (attempt host op) P fun dir => P dir ∧ ¬Calm host := by
  intro before s hs
  unfold attempt
  cases hfails : host.fails op with
  | none => exact hs
  | some e => exact ⟨hs.1, hs.2, not_calm_of_fails hfails⟩

lemma edits_store {Q : WorkDir → Prop} (op : HostOp) {write : WorkDir → WorkDir}
    (h : ∀ dir, P dir → Q (write dir)) :
    Edits id P (store host op id write) Q fun dir => P dir ∧ ¬Calm host := by
  rintro before s ⟨hframe, hs⟩
  rw [store_eq]
  cases hfails : host.fails op with
  | none =>
    refine ⟨hframe.trans (frame_setDir s id write), ?_⟩
    rw [dirOf_setDir]
    exact h _ hs
  | some e => exact ⟨hframe, hs, not_calm_of_fails hfails⟩

lemma edits_storeIf (c : Bool) (op : HostOp) {write : WorkDir → WorkDir}
    (h : c = true → ∀ dir, P dir → P (write dir)) :
    Edits id P (storeIf host c op id write) P fun dir => P dir ∧ ¬Calm host := by
  cases c with
  | false => exact .pure ()
  | true => exact edits_store op (h rfl)

lemma edits_loadVm (P : WorkDir → Prop) : Edits id P (loadVm host id) P P := by
  rintro before s ⟨hframe, hs⟩
  have hload := loadVm_failed host id s s rfl
  rcases hr : loadVm host id s with ⟨r, s'⟩
  rw [hr] at hload
  cases r with
  | ok u => exact ⟨hframe.trans (frame_of_dirs hload), dirOf_of_dirs hload id ▸ hs⟩
  | error e =>
    obtain rfl : s' = s := hload
    exact ⟨hframe, hs⟩

end Store

lemma DirOk.congr {dir dir' : WorkDir} (h : DirOk json isAlphanumeric dir)
    (hmanifest : dir'.manifest = dir.manifest) (hcompose : dir'.compose = dir.compose) :
    DirOk json isAlphanumeric dir' := by
  refine ⟨?_, ?_, ?_⟩
  · rw [hmanifest]
    exact h.resources
  · rw [hmanifest]
    exact h.image
  · rw [hmanifest, hcompose]
    exact h.prealloc

lemma not_discard_of_valid {prealloc : DiskPrealloc} {text : String}
    (h : validateDiskPreallocAgainstCompose json prealloc text = .ok ())
    (hreserves : prealloc.reservesDataBlocks = true) :
    storageDiscardFromCompose json text ≠ .ok true := by
  rw [validateDiskPreallocAgainstCompose, if_pos hreserves, bind_eq_ok] at h
  obtain ⟨discard, hdiscard, h⟩ := h
  rw [ensure_eq_ok] at h
  rw [hdiscard, h]
  exact nofun

-- == updating

variable {new old : Manifest}

/-- A manifest after a change of resources: what the change does not name
stays, and the disk does not shrink. -/
structure Resized (vcpu memory : Option Nat) (image : Option String) (old new : Manifest) :
    Prop where
  id : new.id = old.id
  vcpu : new.vcpu = vcpu.getD old.vcpu
  memory : new.memory = memory.getD old.memory
  diskSize : old.diskSize ≤ new.diskSize
  image : new.image = image.getD old.image
  diskPrealloc : new.diskPrealloc = old.diskPrealloc

lemma runs_applyResourceUpdates {id : String}
    {vcpu memory diskSize : Option Nat} {image : Option String}
    (h : Runs (applyResourceUpdates host id old vcpu memory diskSize image) s new s') :
    Resized vcpu memory image old new ∧ new.portMap = old.portMap := by
  unfold applyResourceUpdates at h
  split at h
  next hnone =>
    obtain ⟨rfl, -⟩ := runs_pure.mp h
    obtain ⟨rfl, rfl, rfl, rfl⟩ := hnone
    exact ⟨⟨rfl, rfl, rfl, Nat.le_refl _, rfl, rfl⟩, rfl⟩
  · simp only [runs_bind, runs_lift, resized, ok_iff] at h
    obtain ⟨_, _, -, _, _, -, _, _, -, ⟨_, hsize, rfl⟩, -⟩ := h
    refine ⟨⟨rfl, rfl, rfl, ?_, rfl, rfl⟩, rfl⟩
    cases diskSize with
    | none => exact Nat.le_refl _
    | some size => simpa using hsize

lemma runs_planUpdate {newId : String}
    (h : Runs (planUpdate host cfg request old) s (newId, new) s') :
    Resized request.vcpu request.memory request.image old new
      ∧ (request.composeFile ≠ "" → validateDiskPreallocAgainstCompose host.around.json
          old.diskPrealloc request.composeFile = .ok ())
      ∧ (request.updatePorts = false → new.portMap = old.portMap)
      ∧ (request.updatePorts = true →
          validatePortMappingConflicts host s (some request.id) new.portMap = .ok ()) := by
  obtain ⟨_, s₁, hcompose, h⟩ := runs_bind.mp h
  obtain rfl : s = s₁ := (readOnly_checkCompose _ _).runs hcompose
  obtain ⟨sized, s₁, hsized, h⟩ := runs_bind.mp h
  obtain rfl : s = s₁ := (readOnly_applyResourceUpdates _ _ _ _ _ _).runs hsized
  obtain ⟨updated, s₁, hinspect, h⟩ := runs_bind.mp h
  obtain ⟨hupdated, rfl⟩ := runs_inspect.mp hinspect
  obtain ⟨_, _, -, h⟩ := runs_bind.mp h
  obtain ⟨_, _, -, h⟩ := runs_bind.mp h
  obtain ⟨_, _, -, h⟩ := runs_bind.mp h
  obtain ⟨_, _, -, h⟩ := runs_bind.mp h
  obtain ⟨hplan, -⟩ := runs_pure.mp h
  cases hplan
  obtain ⟨hresized, hports⟩ := runs_applyResourceUpdates hsized
  simp only [reconfigured, ok_iff] at hupdated
  obtain ⟨_, -, portMap, hmap, _, -, _, -, _, -, rfl⟩ := hupdated
  refine ⟨{ hresized with id := hresized.id }, fun hne => ?_, fun hfalse => ?_, fun htrue => ?_⟩
  · rw [checkCompose, if_neg hne] at hcompose
    simp only [runs_bind, runs_lift, runs_inspect] at hcompose
    obtain ⟨_, _, -, _, _, -, _, _, ⟨hvalid, -⟩, -⟩ := hcompose
    exact hvalid
  · rw [updatedPorts, if_neg (by simp [hfalse])] at hmap
    cases hmap
    exact hports
  · rw [updatedPorts, if_pos htrue] at hmap
    simp only [ok_iff] at hmap
    obtain ⟨_, -, _, hcheck, rfl⟩ := hmap
    exact hcheck

variable {m : Manifest}

lemma runs_manifestOf {op : HostOp} {id : String}
    (h : Runs (manifestOf host op id) s m s') : (dirOf s id).manifest = some m := by
  have hsame : s = s' := (readOnly_manifestOf op id).runs h
  simp only [manifestOf, runs_bind, runs_inspect, ofOption_eq_ok] at h
  obtain ⟨_, s₁, hattempt, hm, -⟩ := h
  rw [← show s = s₁ from (readOnly_attempt op).runs hattempt] at hm
  obtain ⟨dir, hdir, hm⟩ := Option.bind_eq_some_iff.mp hm
  rw [dirOf, hdir]
  exact hm

lemma runs_heldManifest {id : String}
    (h : Runs (heldManifest host id) s m s') : (dirOf s id).manifest = some m := by
  obtain ⟨_, s₁, h₁, h⟩ := runs_bind.mp h
  obtain rfl : s = s₁ := (Keeps.inspect _).runs h₁
  obtain ⟨_, s₁, h₁, h⟩ := runs_bind.mp h
  obtain rfl : s = s₁ := (Keeps.lift _).runs h₁
  exact runs_manifestOf h

structure Admissible (isAlphanumeric : Char → Bool) (vcpu memory : Option Nat)
    (image : Option String) : Prop where
  vcpu : vcpu ≠ some 0
  memory : memory ≠ some 0
  image : ∀ name, image = some name → ImageNameOk isAlphanumeric name

lemma dirOk_put {dir : WorkDir} {vcpu memory : Option Nat}
    {image : Option String} (hdir : DirOk json isAlphanumeric dir)
    (hold : dir.manifest = some old) (hadmissible : Admissible isAlphanumeric vcpu memory image)
    (h : Resized vcpu memory image old new) :
    DirOk json isAlphanumeric { dir with manifest := some new } := by
  obtain ⟨hv, hm, hd⟩ := hdir.resources old hold
  refine ⟨?_, ?_, ?_⟩
  · rintro _ ⟨⟩
    refine ⟨?_, ?_, hd.trans_le h.diskSize⟩
    · rw [h.vcpu]
      cases vcpu with
      | none => exact hv
      | some n => exact Nat.pos_of_ne_zero fun h => hadmissible.vcpu (congrArg some h)
    · rw [h.memory]
      cases memory with
      | none => exact hm
      | some n => exact Nat.pos_of_ne_zero fun h => hadmissible.memory (congrArg some h)
  · rintro _ ⟨⟩
    rw [h.image]
    cases image with
    | none => exact hdir.image old hold
    | some name => exact hadmissible.image name rfl
  · rintro _ ⟨⟩ hreserves
    rw [h.diskPrealloc] at hreserves
    exact hdir.prealloc old hold hreserves

lemma edits_writeUpdate (hjson : host.around.json = json)
    (hadmissible : Admissible isAlphanumeric request.vcpu request.memory request.image)
    (hresized : Resized request.vcpu request.memory request.image old new)
    (hcompose : request.composeFile ≠ "" → validateDiskPreallocAgainstCompose host.around.json
      old.diskPrealloc request.composeFile = .ok ()) :
    Edits request.id (fun dir => dir.manifest = some old ∧ DirOk json isAlphanumeric dir)
      (writeUpdate host request new) (DirOk json isAlphanumeric) (DirOk json isAlphanumeric) := by
  let P (dir : WorkDir) : Prop := dir.manifest = some old ∧ DirOk json isAlphanumeric dir
  refine Edits.failed (E := fun dir => P dir ∧ ¬Calm host) ?_ fun dir hdir => hdir.1.2
  refine .bind (edits_storeIf (P := P) _ _ fun hne dir hdir => ?_) fun _ => ?_
  · obtain ⟨hm, hok⟩ := hdir
    refine ⟨hm, hok.resources, hok.image, ?_⟩
    rintro m hm' hreserves _ ⟨⟩
    rw [show m = old from Option.some.inj (hm'.symm.trans hm)] at hreserves
    exact not_discard_of_valid (hjson ▸ hcompose (by simpa using hne)) hreserves
  refine .bind (edits_storeIf (P := P) _ _ fun _ _ h => h.imp_right (·.congr rfl rfl)) fun _ => ?_
  refine .bind (edits_storeIf (P := P) _ _ fun _ _ h => h.imp_right (·.congr rfl rfl)) fun _ => ?_
  exact edits_store (P := P) _ fun dir hdir => dirOk_put hdir.2 hdir.1 hadmissible hresized

lemma edits_updateVm (hjson : host.around.json = json)
    (hadmissible : Admissible isAlphanumeric request.vcpu request.memory request.image) :
    Edits request.id (DirOk json isAlphanumeric) (updateVm host cfg request)
      (DirOk json isAlphanumeric) (DirOk json isAlphanumeric) := by
  refine .look (readOnly_plannedUpdate request) (fun _ h => h) ?_
  rintro ⟨newId, new⟩ s hs hruns
  obtain ⟨old, s₁, hold, hplan⟩ := runs_bind.mp hruns
  obtain rfl : s = s₁ := (readOnly_heldManifest _).runs hold
  obtain ⟨hresized, hcompose, -⟩ := runs_planUpdate hplan
  refine .bind ((edits_writeUpdate hjson hadmissible hresized hcompose).pre ?_) fun _ => ?_
  · rintro _ rfl
    exact ⟨runs_heldManifest hold, hs⟩
  · exact ((edits_loadVm _).context _).bind fun _ => .pure _

lemma readOnly_plannedResize (request : ResizeVmRequest) :
    ReadOnly (plannedResize host request) := by
  refine .bind (.lift _) fun _ => ?_
  refine (readOnly_heldManifest _).bind fun _ => ?_
  refine (readOnly_applyResourceUpdates _ _ _ _ _ _).bind fun _ => ?_
  exact (readOnly_growDiskIfNeeded _ _ _).bind fun _ => .pure _

lemma edits_resizeVm {request : ResizeVmRequest}
    (himage : ∀ name, request.image = some name → ImageNameOk isAlphanumeric name) :
    Edits request.id (DirOk json isAlphanumeric) (resizeVm host request)
      (DirOk json isAlphanumeric) (DirOk json isAlphanumeric) := by
  refine .look (readOnly_plannedResize request) (fun _ h => h) ?_
  intro new s hs hruns
  unfold plannedResize at hruns
  obtain ⟨_, s₁, h₁, h⟩ := runs_bind.mp hruns
  obtain ⟨hvalid, rfl⟩ := runs_lift.mp h₁
  obtain ⟨old, s₁, hold, h⟩ := runs_bind.mp h
  obtain rfl : s = s₁ := (readOnly_heldManifest _).runs hold
  obtain ⟨sized, _, hsized, h⟩ := runs_bind.mp h
  obtain ⟨_, _, -, h⟩ := runs_bind.mp h
  obtain ⟨rfl, -⟩ := runs_pure.mp h
  simp only [validateResizeRequest, ok_iff] at hvalid
  obtain ⟨-, -, -, hvcpu, -, hmemory, -⟩ := hvalid
  refine .bind (Q := DirOk json isAlphanumeric) ((edits_store _ ?_).failed ?_)
    fun _ => (edits_loadVm _).context _
  · rintro _ rfl
    exact dirOk_put hs (runs_heldManifest hold) ⟨hvcpu, hmemory, himage⟩
      (runs_applyResourceUpdates hsized).1
  · rintro _ ⟨rfl, -⟩
    exact hs

-- == creating

lemma createManifest_inv {id : String} {now : Nat} {request : VmConfiguration}
    (h : createManifestFromVmConfig host.around cfg id now request = .ok m) :
    0 < m.vcpu ∧ 0 < m.memory ∧ 0 < m.diskSize ∧ m.image = request.image ∧ m.id = id
      ∧ validateDiskPreallocAgainstCompose host.around.json m.diskPrealloc request.composeFile
          = .ok () := by
  simp only [createManifestFromVmConfig, ok_iff] at h
  obtain ⟨_, -, _, hvcpu, _, hmemory, _, hdisk, _, -, _, -, _, -, _, -, _, -, _, -, _, -, _, -, _,
    -, prealloc, -, _, hprealloc, _, -, rfl⟩ := h
  exact ⟨Nat.pos_of_ne_zero hvcpu, Nat.pos_of_ne_zero hmemory, Nat.pos_of_ne_zero hdisk, rfl, rfl,
    hprealloc⟩

lemma runs_admitNew {id : String} {now : Nat} {request : VmConfiguration}
    (h : Runs (admitNew host cfg id now request) s m s') :
    createManifestFromVmConfig host.around cfg id now request = .ok m
      ∧ validatePortMappingConflicts host s none m.portMap = .ok () := by
  simp only [admitNew, runs_bind, runs_lift, runs_inspect, runs_pure] at h
  obtain ⟨m', _, ⟨hm, rfl⟩, _, _, ⟨hports, rfl⟩, _, _, -, rfl, -⟩ := h
  exact ⟨hm, hports⟩

def Creating (m : Manifest) (text : String) (dir : WorkDir) : Prop :=
  dir.manifest = some m ∧ (dir.compose = none ∨ dir.compose = some text)

lemma Creating.dirOk {text : String} {dir : WorkDir} (h : Creating m text dir)
    (hpositive : 0 < m.vcpu ∧ 0 < m.memory ∧ 0 < m.diskSize)
    (himage : ImageNameOk isAlphanumeric m.image)
    (hvalid : validateDiskPreallocAgainstCompose json m.diskPrealloc text = .ok ()) :
    DirOk json isAlphanumeric dir := by
  obtain ⟨hm, hcompose⟩ := h
  refine ⟨?_, ?_, ?_⟩
  · intro m' hm'
    rw [hm] at hm'
    cases hm'
    exact hpositive
  · intro m' hm'
    rw [hm] at hm'
    cases hm'
    exact himage
  · intro m' hm' hreserves text' htext
    rw [hm] at hm'
    cases hm'
    rcases hcompose with hnone | hsome
    · rw [hnone] at htext
      cases htext
    · rw [hsome] at htext
      cases htext
      exact not_discard_of_valid hvalid hreserves

section Creation

variable {id : String} {m : Manifest} {request : VmConfiguration}

lemma runs_loadVm_name (h : Runs (loadVm host id) s () s')
    (hm : (dirOf s id).manifest = some m) : ImageNameOk host.around.isAlphanumeric m.image := by
  simp only [loadVm, readVm, runs_bind, runs_lift] at h
  obtain ⟨_, _, ⟨m', s₁, hmanifest, _, _, ⟨hname, -⟩, -⟩, -⟩ := h
  rw [runs_manifestOf hmanifest] at hm
  cases hm
  exact validateImageName_eq_ok.mp hname

lemma edits_prepareWorkDir (appId : String) :
    Edits id (Creating m request.composeFile) (prepareWorkDir host id request appId)
      (Creating m request.composeFile)
      fun dir => Creating m request.composeFile dir ∧ ¬Calm host := by
  refine (edits_attempt _).bind fun _ => ?_
  refine .bind (edits_store (Q := Creating m request.composeFile) _ fun dir h => ⟨h.1, .inr rfl⟩)
    fun _ => ?_
  refine .bind (edits_storeIf _ _ fun _ dir h => h) fun _ => ?_
  refine .bind (edits_storeIf _ _ fun _ dir h => h) fun _ => ?_
  split
  · exact .pure _
  · exact edits_attempt _

lemma edits_setStarted {E : WorkDir → Prop} (started : Bool)
    (h : ∀ dir, P dir → P { dir with started := started }) :
    Edits id P (setStarted host id started) P E := by
  intro before s hs
  exact ((edits_store .setStarted h).failed fun _ => And.left) before |>.always hs

lemma edits_loadOrRemove :
    Edits id (Creating m request.composeFile) (loadOrRemove host id)
      (fun dir => Creating m request.composeFile dir
        ∧ ImageNameOk host.around.isAlphanumeric m.image)
      fun dir => dir = {} ∨ Creating m request.composeFile dir ∧ ¬Calm host := by
  intro before s hs
  have hedits : Edits id _ (loadVm host id) _ _ := edits_loadVm (Creating m request.composeFile)
  have hload := hedits before s hs
  unfold loadOrRemove
  rcases hr : loadVm host id s with ⟨r, s'⟩
  rw [hr] at hload
  cases r with
  | ok u => exact ⟨hload.1, hload.2, runs_loadVm_name hr hs.2.1⟩
  | error e =>
    cases hfails : host.fails .removeDir with
    | none =>
      exact ⟨hload.1.trans fun _ h => BTreeMap.get?_erase_of_ne h, .inl (by simp [dirOf])⟩
    | some e => exact ⟨hload.1, .inr ⟨hload.2, not_calm_of_fails hfails⟩⟩

lemma edits_launchNew (stopped : Bool) :
    Edits id P (launchNew host id stopped) P fun dir => dir = {} ∨ P dir := by
  unfold launchNew
  split
  · exact .pure _
  · intro before s hs
    unfold startOrRemove
    cases host.fails .startVm with
    | none => exact hs
    | some e =>
      cases hremoves : host.removes with
      | true =>
        exact ⟨hs.1.trans fun _ h => BTreeMap.get?_erase_of_ne h, .inl (by simp [dirOf, forget])⟩
      | false => exact ⟨hs.1, .inr hs.2⟩

/-- A new VM keeps the rules, if its image can be named or the host does
not fail while its files are being written or taken back. -/
lemma edits_createVm {now : Nat} (hjson : host.around.json = json)
    (halphanumeric : host.around.isAlphanumeric = isAlphanumeric)
    (hcareful : ImageNameOk isAlphanumeric request.image ∨ Calm host) :
    Edits id (· = {}) (createVm host cfg id now request) (DirOk json isAlphanumeric)
      (DirOk json isAlphanumeric) := by
  have hempty : ∀ dir : WorkDir, dir = {} → DirOk json isAlphanumeric dir := by
    rintro _ rfl
    exact dirOk_empty
  refine .look (readOnly_admitNew id now request) hempty fun m s hs hruns => ?_
  obtain ⟨hvcpu, hmemory, hdisk, himage, -, hvalid⟩ := createManifest_inv (runs_admitNew hruns).1
  rw [hjson] at hvalid
  have hcreating : ∀ dir, Creating m request.composeFile dir →
      ImageNameOk isAlphanumeric m.image → DirOk json isAlphanumeric dir :=
    fun dir h hname => h.dirOk ⟨hvcpu, hmemory, hdisk⟩ hname hvalid
  have hfailing : ∀ dir, Creating m request.composeFile dir ∧ ¬Calm host →
      DirOk json isAlphanumeric dir := by
    rintro dir ⟨h, hnot⟩
    refine hcreating dir h ?_
    rw [himage]
    exact hcareful.resolve_right hnot
  rw [hs]
  refine .bind ((edits_store (Q := Creating m request.composeFile) _ ?_).failed
    fun dir h => hempty dir h.1) fun _ => ?_
  · rintro _ rfl
    exact ⟨rfl, .inl rfl⟩
  refine .bind ((edits_prepareWorkDir _).failed hfailing) fun _ => ?_
  refine .bind (edits_setStarted _ fun _ h => h) fun _ => ?_
  refine .bind (edits_loadOrRemove.failed fun dir h => h.elim (hempty dir) (hfailing dir))
    fun _ => ?_
  refine .bind ((edits_launchNew _).conseq (fun dir h => ?_) (fun _ h => h) fun dir h => ?_)
    fun _ => .pure _
  · exact hcreating dir h.1 (halphanumeric ▸ h.2)
  · exact h.elim (hempty dir) fun h => h

end Creation

-- == runs

/-- A call that changes a VM's directory. -/
inductive Call where
  | create (id : String) (now : Nat) (request : VmConfiguration)
  | update (request : UpdateVmRequest)
  | resize (request : ResizeVmRequest)

/-- A call on some host. -/
structure Step (Image : Type) where
  host : Host Image
  cfg : CvmConfig
  call : Call

/-- The state after a call, however it ends. -/
def perform (s : App Image) (step : Step Image) : App Image :=
  match step.call with
  | .create id now request => (createVm step.host step.cfg id now request s).2
  | .update request => (updateVm step.host step.cfg request s).2
  | .resize request => (resizeVm step.host request s).2

/-- What a step has to bring for the rules to be kept. A new VM gets a
name that no VM has; JSON and letters are read the same way in every
step. -/
def Careful (json : ComposeJson) (isAlphanumeric : Char → Bool) (s : App Image)
    (step : Step Image) : Prop :=
  step.host.around.json = json ∧ step.host.around.isAlphanumeric = isAlphanumeric
    ∧ match step.call with
      | .create id _ request => s.dirs.get? id = none
          ∧ (ImageNameOk isAlphanumeric request.image ∨ Calm step.host)
      | .update request => Admissible isAlphanumeric request.vcpu request.memory request.image
      | .resize request => ∀ name, request.image = some name → ImageNameOk isAlphanumeric name

lemma rules_perform (s : App Image) (step : Step Image) (h : Rules json isAlphanumeric s)
    (hstep : Careful json isAlphanumeric s step) :
    Rules json isAlphanumeric (perform s step) := by
  obtain ⟨host, cfg, call⟩ := step
  obtain ⟨hjson, halphanumeric, hcall⟩ := hstep
  cases call with
  | create id now request =>
    obtain ⟨hfresh, hcareful⟩ := hcall
    refine h.of_frame ((edits_createVm hjson halphanumeric hcareful).always ?_)
    rw [dirOf, hfresh]
    rfl
  | update request => exact h.of_frame ((edits_updateVm hjson hcall).always (h.dirOf request.id))
  | resize request => exact h.of_frame ((edits_resizeVm hcall).always (h.dirOf request.id))

/-- On a host where nothing fails, an update that is rejected changes
nothing exactly if what it plans to write reads back; and a run of calls
that ask for nothing the rules forbid keeps them. -/
theorem updates_keep_rules :
    (∀ (host : Host Image) (cfg : CvmConfig) (request : UpdateVmRequest) (s : App Image),
      Calm host →
        (((∃ e, (updateVm host cfg request s).1 = .error e) →
            Unchanged s (updateVm host cfg request s).2)
          ↔ ∀ newId manifest, (plannedUpdate host cfg request s).1 = .ok (newId, manifest) →
              ReadsBack host request s manifest))
      ∧ ∀ (json : ComposeJson) (isAlphanumeric : Char → Bool) (s : App Image)
          (steps : List (Step Image)),
          Rules json isAlphanumeric s → Along perform (Careful json isAlphanumeric) s steps →
            Rules json isAlphanumeric (steps.foldl perform s) :=
  ⟨fun _ _ request s hcalm => rejected_unchanged_iff hcalm request s,
    fun _ _ _ _ hs hsteps => hsteps.foldl rules_perform hs⟩

-- == examples

def plainCompose : String :=
  "\x7b\"manifest_version\":2,\"name\":\"web\",\"runner\":\"docker-compose\"\x7d"

def plainJson : ComposeJson where
  value text := if text = plainCompose then .ok {} else .error "expected value"
  appCompose text := if text = plainCompose then .ok {} else .error "expected value"

def quietHost : Host String where
  around :=
    { ip := { parse := fun _ => .error "invalid IP address syntax", display := fun _ => "0.0.0.0" }
      json := plainJson
      hasInterface := fun _ => false
      devices := .ok []
      volumeSource := fun _ _ => .error "no such volume"
      isAlphanumeric := Char.isAlphanum
      lowercase := id }
  fails _ := none
  running _ := false
  hasDisk _ := false
  releases := true
  removes := true
  image name := if name = "dstack-0.5.5" then .ok name else .error "no such image"

def quietCfg : CvmConfig where
  portMapping := { enabled := false, address := .v4 0, range := [] }
  network := {}
  gpu := {}
  diskPrealloc := .off
  volumesDir := ""
  teeSimulator := false

def noVms : App String where
  dirs := BTreeMap.empty
  vms := BTreeMap.empty
  cidPool := IdPool.new 1000 2000
  removing := BTreeMap.empty

def stoppedWeb : Call :=
  .create "web-1" 0
    { name := "web", image := "dstack-0.5.5", composeFile := plainCompose, vcpu := 2,
      memory := 2048, diskSize := 20, appId := some "00", stopped := true }

def afterCreate : App String := perform noVms ⟨quietHost, quietCfg, stoppedWeb⟩

/-- The manifest of the one VM. -/
def storedManifest (s : App String) : Option Manifest :=
  (s.dirs.get? "web-1").bind (·.manifest)

/-- An update to an image whose name cannot be loaded is refused, and the
name is stored; an update to no CPU at all is accepted. -/
theorem refused_image_is_stored :
    Calm quietHost
      ∧ (updateVm quietHost quietCfg { id := "web-1", image := some "a/b" } afterCreate).1
          = .error "Failed to load VM: Invalid image name"
      ∧ (storedManifest afterCreate).map (·.image) = some "dstack-0.5.5"
      ∧ (storedManifest (updateVm quietHost quietCfg { id := "web-1", image := some "a/b" }
          afterCreate).2).map (·.image) = some "a/b"
      ∧ (updateVm quietHost quietCfg { id := "web-1", vcpu := some 0 } afterCreate).1 = .ok ""
      ∧ (storedManifest (updateVm quietHost quietCfg { id := "web-1", vcpu := some 0 }
          afterCreate).2).map (·.vcpu) = some 0 := by
  refine ⟨fun _ => rfl, ?_, ?_, ?_, ?_, ?_⟩
  all_goals decide +kernel

def laterCalls : List Call :=
  [.resize { id := "web-1", memory := some 4096 }, .update { id := "web-1", diskSize := some 10 }]

/-- A resize, and an update that is refused. -/
theorem laterCalls_keep_rules :
    (updateVm quietHost quietCfg { id := "web-1", diskSize := some 10 } afterCreate).1
        = .error "Cannot shrink disk size"
      ∧ Unchanged afterCreate
          (updateVm quietHost quietCfg { id := "web-1", diskSize := some 10 } afterCreate).2
      ∧ Rules plainJson Char.isAlphanum (((stoppedWeb :: laterCalls).map
          (⟨quietHost, quietCfg, ·⟩)).foldl perform noVms)
      ∧ (storedManifest (((stoppedWeb :: laterCalls).map
          (⟨quietHost, quietCfg, ·⟩)).foldl perform noVms)).map (·.memory) = some 4096 := by
  have hrefused : (updateVm quietHost quietCfg { id := "web-1", diskSize := some 10 }
      afterCreate).1 = .error "Cannot shrink disk size" := by decide +kernel
  refine ⟨hrefused, ?_, ?_, by decide +kernel⟩
  · refine (updates_keep_rules.1 quietHost quietCfg _ afterCreate fun _ => rfl).mpr ?_ ⟨_, hrefused⟩
    intro newId manifest hplan
    have hnone : (plannedUpdate quietHost quietCfg { id := "web-1", diskSize := some 10 }
        afterCreate).1 = .error "Cannot shrink disk size" := by decide +kernel
    rw [hnone] at hplan
    cases hplan
  · refine updates_keep_rules.2 plainJson Char.isAlphanum noVms _ (fun id dir h => ?_) ?_
    · rw [noVms, BTreeMap.get?_empty] at h
      cases h
    · refine ⟨⟨rfl, rfl, BTreeMap.get?_empty _, .inr fun _ => rfl⟩, ⟨rfl, rfl, nofun⟩,
        ⟨rfl, rfl, nofun, nofun, nofun⟩, trivial⟩

end Dstack.Vmm
