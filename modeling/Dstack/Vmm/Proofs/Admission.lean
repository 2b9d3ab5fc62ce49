/-
Host ports are promised once, as long as no check lets in what another VM
has been promised and does not show in the table yet.

A list of ports is in up to three places: in the table, in the VM's
directory, and in the hands of a call. `Holds` is all of them at once,
with the mark of each. One lemma says where what is held after a step
comes from (`holds_step`): it was held before with the same mark, or the
step is one of the two checks (`Admits`). The check looks at the table
only; that the other two places are clear is the condition
(`Uncontended`).
-/
import Dstack.Vmm.Admission
import Dstack.Vmm.Proofs.Deploy

namespace Dstack.Vmm

open Lib Lib.Stateful

-- == conflicts

lemma portMappingsConflict_comm (a b : PortMapping) :
    portMappingsConflict a b = portMappingsConflict b a := by
  unfold portMappingsConflict
  rw [decide_eq_decide]
  constructor
  · rintro ⟨hprotocol, hport, haddress⟩
    refine ⟨hprotocol.symm, hport.symm, ?_⟩
    rcases haddress with h | h | h
    · exact .inl h.symm
    · exact .inr (.inr h)
    · exact .inr (.inl h)
  · rintro ⟨hprotocol, hport, haddress⟩
    refine ⟨hprotocol.symm, hport.symm, ?_⟩
    rcases haddress with h | h | h
    · exact .inl h.symm
    · exact .inr (.inr h)
    · exact .inr (.inl h)

def Apart (l l' : List PortMapping) : Prop :=
  ∀ a ∈ l, ∀ b ∈ l', portMappingsConflict a b = false

lemma Apart.symm {l l' : List PortMapping} (h : Apart l l') : Apart l' l := by
  intro a ha b hb
  rw [portMappingsConflict_comm]
  exact h b hb a ha

def Unambiguous (l : List PortMapping) : Prop :=
  l.Pairwise fun a b => portMappingsConflict a b = false

lemma checkUnique_eq_ok {ip : IpText} {earlier l : List PortMapping} {u : Unit} :
    checkUnique ip earlier l = .ok u → Apart l earlier ∧ Unambiguous l := by
  induction l generalizing earlier with
  | nil => exact fun _ => ⟨nofun, List.Pairwise.nil⟩
  | cons a l ih =>
    intro h
    rw [checkUnique, bind_eq_ok] at h
    obtain ⟨_, hfirst, h⟩ := h
    rw [ensure_eq_ok, List.any_eq_false] at hfirst
    obtain ⟨hearlier, hrest⟩ := ih h
    refine ⟨?_, List.pairwise_cons.mpr ⟨?_, hrest⟩⟩
    · intro m hm e he
      rcases List.mem_cons.mp hm with rfl | hm
      · exact Bool.eq_false_iff.mpr (hfirst e he)
      · exact hearlier m hm e (List.mem_append_left _ he)
    · intro m hm
      rw [portMappingsConflict_comm]
      exact hearlier m hm a (List.mem_append_right _ (List.mem_singleton.mpr rfl))

variable {Image : Type} {host : Host Image} {cfg : CvmConfig}

variable {s : App Image}

lemma validatePortMappingConflicts_eq_ok {vmId : Option String}
    {mappings : List PortMapping} {u : Unit}
    (h : validatePortMappingConflicts host s vmId mappings = .ok u) :
    Unambiguous mappings ∧ ∀ id vm, s.vms.get? id = some vm → vmId ≠ some vm.manifest.id →
      Apart mappings vm.manifest.portMap := by
  simp only [validatePortMappingConflicts, bind_eq_ok, Result.rejectSome_eq_ok] at h
  obtain ⟨_, hunique, hnone⟩ := h
  refine ⟨(checkUnique_eq_ok hunique).2, fun id vm hvm hne a ha b hb => ?_⟩
  rw [conflictingVm, List.findSome?_eq_none_iff] at hnone
  have hvm := hnone (id, vm) (BTreeMap.mem_entries.mpr hvm)
  dsimp only at hvm
  rw [if_neg hne, Option.map_eq_none_iff, List.find?_eq_none] at hvm
  have hnot := hvm a ha
  rw [Bool.not_eq_true, List.any_eq_false] at hnot
  exact Bool.eq_false_iff.mpr (hnot b hb)

-- == what a step writes

def manifestAt (s : App Image) (id : String) : Option Manifest :=
  (s.dirs.get? id).bind (·.manifest)

lemma manifestAt_eq (s : App Image) (id : String) : manifestAt s id = (dirOf s id).manifest := by
  unfold manifestAt dirOf
  cases s.dirs.get? id <;> rfl

lemma manifestAt_setDir (s : App Image) (id id' : String) (write : WorkDir → WorkDir) :
    manifestAt (setDir s id write) id'
      = if id = id' then (write (dirOf s id)).manifest else manifestAt s id' := by
  unfold manifestAt setDir
  dsimp only
  rw [BTreeMap.get?_insert]
  split
  · rfl
  · rfl

def SameManifests (s s' : App Image) : Prop :=
  s'.vms = s.vms ∧ ∀ id, manifestAt s' id = manifestAt s id

lemma SameManifests.refl (s : App Image) : SameManifests s s := ⟨rfl, fun _ => rfl⟩

lemma SameManifests.trans {s₁ s₂ s₃ : App Image} (h₁ : SameManifests s₁ s₂)
    (h₂ : SameManifests s₂ s₃) : SameManifests s₁ s₃ :=
  ⟨h₂.1.trans h₁.1, fun id => (h₂.2 id).trans (h₁.2 id)⟩

instance : Std.Refl (SameManifests : App Image → App Image → Prop) := ⟨SameManifests.refl⟩

instance : IsTrans (App Image) SameManifests := ⟨fun _ _ _ => SameManifests.trans⟩

def Fewer (s s' : App Image) : Prop :=
  (∀ id vm, s'.vms.get? id = some vm → s.vms.get? id = some vm)
    ∧ ∀ id m, manifestAt s' id = some m → manifestAt s id = some m

variable {s' : App Image}

lemma SameManifests.fewer (h : SameManifests s s') : Fewer s s' := by
  refine ⟨fun id vm hvm => ?_, fun id m hm => ?_⟩
  · rw [← h.1]
    exact hvm
  · rw [← h.2 id]
    exact hm

lemma sameManifests_store (op : HostOp) (id : String) (write : WorkDir → WorkDir)
    (h : ∀ dir, (write dir).manifest = dir.manifest) :
    Keeps SameManifests (store host op id write) := by
  intro s
  rw [store_eq]
  cases host.fails op with
  | some e => exact SameManifests.refl s
  | none =>
    refine ⟨rfl, fun id' => ?_⟩
    rw [manifestAt_setDir]
    split
    · next hid => rw [h, ← hid, manifestAt_eq]
    · rfl

lemma sameManifests_storeIf (c : Bool) (op : HostOp) (id : String) (write : WorkDir → WorkDir)
    (h : ∀ dir, (write dir).manifest = dir.manifest) :
    Keeps SameManifests (storeIf host c op id write) := by
  cases c with
  | false => exact .pure ()
  | true => exact sameManifests_store op id write h

lemma sameManifests_setStarted (id : String) (started : Bool) :
    Keeps SameManifests (setStarted host id started) := by
  intro s
  exact sameManifests_store .setStarted id (fun dir => { dir with started := started })
    (fun _ => rfl) s

lemma sameManifests_prepareWorkDir (id : String) (request : VmConfiguration) (appId : String) :
    Keeps SameManifests (prepareWorkDir host id request appId) := by
  refine .bind (.of_eq (readOnly_attempt _)) fun _ => ?_
  refine .bind (sameManifests_store _ _ _ fun _ => rfl) fun _ => ?_
  refine .bind (sameManifests_storeIf _ _ _ _ fun _ => rfl) fun _ => ?_
  refine .bind (sameManifests_storeIf _ _ _ _ fun _ => rfl) fun _ => ?_
  exact .ite (.pure _) (.of_eq (readOnly_attempt _))

def StoredManifest (id : String) (m : Manifest) (s s' : App Image) : Prop :=
  s'.vms = s.vms ∧ ∀ id', manifestAt s' id' = if id = id' then some m else manifestAt s id'

lemma store_manifest (id : String) (m : Manifest) (s : App Image) :
    Triple (SameManifests s) (store host .putManifest id fun dir => { dir with manifest := some m })
      (fun _ => StoredManifest id m s) (SameManifests s) := by
  intro s₁ hs
  rw [store_eq]
  cases host.fails .putManifest with
  | some e => exact hs
  | none =>
    refine ⟨hs.1, fun id' => ?_⟩
    rw [manifestAt_setDir]
    split
    · rfl
    · exact hs.2 id'

lemma writeUpdate_manifest (request : UpdateVmRequest) (m : Manifest) (s : App Image) :
    Triple (SameManifests s) (writeUpdate host request m)
      (fun _ => StoredManifest request.id m s) (SameManifests s) := by
  have hother : ∀ (c : Bool) (op : HostOp) (write : WorkDir → WorkDir),
      (∀ dir, (write dir).manifest = dir.manifest) →
        Triple (SameManifests s) (storeIf host c op request.id write) (fun _ => SameManifests s)
          (SameManifests s) :=
    fun c op write h => .of_keeps (sameManifests_storeIf c op request.id write h) fun _ _ => .trans
  refine Triple.bind (hother _ _ _ fun _ => rfl) fun _ => ?_
  refine Triple.bind (hother _ _ _ fun _ => rfl) fun _ => ?_
  refine Triple.bind (hother _ _ _ fun _ => rfl) fun _ => ?_
  exact store_manifest request.id m s

lemma runs_readVm {id : String} {vm : Loaded Image}
    (h : Runs (readVm host id) s vm s') : manifestAt s id = some vm.manifest := by
  simp only [readVm, runs_bind, runs_pure] at h
  obtain ⟨m, _, hm, _, _, -, _, _, -, _, _, -, _, _, -, _, _, -, rfl, -⟩ := h
  rw [manifestAt_eq]
  exact runs_manifestOf hm

-- == holding

def Work.carries : Work Image → Option (String × Manifest)
  | .storing id _ manifest => some (id, manifest)
  | .planning request manifest => some (request.id, manifest)
  | .writing request manifest => some (request.id, manifest)
  | .publishing id _ vm => some (id, vm.manifest)
  | .preparing _ _ _ => none
  | .loading _ _ => none

variable {host : Host Image}

namespace Admissions

inductive Holds (w : Admissions Image) : Bool → String → Manifest → Prop
  | live {id : String} {vm : VmConfig Image} (h : w.app.vms.get? id = some vm) :
      Holds w (w.liveChecked id) id vm.manifest
  | stored {id : String} {m : Manifest} (h : manifestAt w.app id = some m) :
      Holds w (w.storedChecked id) id m
  | carried {call : Nat} {work : Work Image} {checked : Bool} {id : String} {m : Manifest}
      (h : w.calls.get? call = some (work, checked)) (hcarries : work.carries = some (id, m)) :
      Holds w checked id m

inductive Admits (w : Admissions Image) : AdmissionEvent Image → String → Manifest → Prop
  | create {call : Nat} {host : Host Image} {cfg : CvmConfig} {id : String} {now : Nat}
      {request : VmConfiguration} {m : Manifest}
      (h : (admitNew host cfg id now request w.app).1 = .ok m) :
      Admits w (.create call host cfg id now request) id m
  | update {call : Nat} {host : Host Image} {cfg : CvmConfig} {request : UpdateVmRequest}
      {old new : Manifest} {checked : Bool} {newId : String}
      (hcall : w.calls.get? call = some (.planning request old, checked))
      (hports : request.updatePorts = true)
      (h : (planUpdate host cfg request old w.app).1 = .ok (newId, new)) :
      Admits w (.resume call host cfg) request.id new

def Held (w : Admissions Image) (checked : Bool) (id : String) (m : Manifest) : Prop :=
  ∃ m₀, Holds w checked id m₀ ∧ m₀.id = m.id ∧ m₀.portMap = m.portMap

lemma Holds.held {w : Admissions Image} {checked : Bool} {id : String} {m : Manifest}
    (h : Holds w checked id m) : Held w checked id m :=
  ⟨m, h, rfl, rfl⟩

variable {w : Admissions Image} {call : Nat} {app : App Image} {next : Work Image × Bool}
  {checked : Bool} {id : String} {m : Manifest}

lemma holds_calls {w' : Admissions Image} (h : Holds w' checked id m)
    (hfewer : Fewer w.app w'.app) (hlive : w'.liveChecked = w.liveChecked)
    (hstored : w'.storedChecked = w.storedChecked) :
    Holds w checked id m ∨ ∃ call work, w'.calls.get? call = some (work, checked)
      ∧ work.carries = some (id, m) := by
  cases h with
  | live h =>
    rw [hlive]
    exact .inl (.live (hfewer.1 _ _ h))
  | stored h =>
    rw [hstored]
    exact .inl (.stored (hfewer.2 _ _ h))
  | carried h hcarries => exact .inr ⟨_, _, h, hcarries⟩

lemma holds_ends (hfewer : Fewer w.app app) (h : Holds (w.ends call app) checked id m) :
    Holds w checked id m := by
  rcases holds_calls (w := w) h hfewer rfl rfl with h | ⟨call', work, hcall, hcarries⟩
  · exact h
  · exact .carried (BTreeMap.get?_erase_eq_some.mp hcall).2 hcarries

lemma holds_goesOn (hfewer : Fewer w.app app) (h : Holds (w.goesOn call app next) checked id m) :
    Holds w checked id m ∨ next.2 = checked ∧ next.1.carries = some (id, m) := by
  rcases holds_calls (w := w) h hfewer rfl rfl with h | ⟨call', work, hcall, hcarries⟩
  · exact .inl h
  · rcases BTreeMap.get?_insert_eq_some.mp hcall with ⟨-, rfl⟩ | ⟨-, hcall⟩
    · exact .inr ⟨rfl, hcarries⟩
    · exact .inl (.carried hcall hcarries)

lemma holds_proceed {x : Stateful (App Image) (Work Image × Bool)}
    (h : Holds (w.proceed call x) checked id m) (hx : Keeps SameManifests x) :
    Holds w checked id m
      ∨ ∃ work app, Runs x w.app (work, checked) app ∧ work.carries = some (id, m) := by
  have hfewer := (hx w.app).fewer
  unfold proceed at h
  rcases hr : x w.app with ⟨r, app⟩
  rw [hr] at h hfewer
  cases r with
  | error e => exact .inl (holds_ends hfewer h)
  | ok next =>
    obtain ⟨work, mark⟩ := next
    rcases holds_goesOn hfewer h with h | ⟨hmark, hcarries⟩
    · exact .inl h
    · cases hmark
      exact .inr ⟨work, app, hr, hcarries⟩

lemma holds_stores {id' : String} {m' : Manifest} {checked' : Bool} {next : Work Image}
    {x : Stateful (App Image) Unit} (hcarried : Holds w checked' id' m')
    (hx : Triple (SameManifests w.app) x (fun _ => StoredManifest id' m' w.app)
      (SameManifests w.app))
    (hnext : next.carries = none) (h : Holds (w.stores call id' checked' x next) checked id m) :
    Holds w checked id m := by
  have happ := hx w.app (SameManifests.refl _)
  unfold stores at h
  rcases hr : x w.app with ⟨r, app⟩
  rw [hr] at happ h
  cases r with
  | error e => exact holds_ends happ.fewer h
  | ok u =>
    dsimp only [goesOn] at h
    generalize hw' : (⟨app, _, _, _⟩ : Admissions Image) = w' at h
    cases h with
    | live h =>
      subst hw'
      refine .live ?_
      rw [← happ.1]
      exact h
    | stored h =>
      subst hw'
      dsimp only at h ⊢
      rw [happ.2] at h
      split at h
      · next hid =>
          cases h
          rw [← hid, Function.update_self]
          exact hcarried
      · next hid =>
          rw [Function.update_of_ne (Ne.symm hid)]
          exact .stored h
    | carried h hcarries =>
      subst hw'
      dsimp only at h
      rcases BTreeMap.get?_insert_eq_some.mp h with ⟨-, ⟨⟩⟩ | ⟨-, h⟩
      · rw [hnext] at hcarries
        cases hcarries
      · exact .carried h hcarries

def Keyed (w : Admissions Image) : Prop := ∀ checked id m, Holds w checked id m → m.id = id

lemma fewer_erase (s : App Image) (id : String) :
    Fewer s { s with dirs := s.dirs.erase id } := by
  refine ⟨fun _ _ h => h, fun id' m h => ?_⟩
  obtain ⟨dir, hdir, hm⟩ := Option.bind_eq_some_iff.mp h
  unfold manifestAt
  rw [(BTreeMap.get?_erase_eq_some.mp hdir).2]
  exact hm

lemma fewer_discard (host : Host Image) (id : String) (new : Bool)
    (h : SameManifests s app) : Fewer s (discard host id new app) := by
  unfold discard
  split
  · have herase := fewer_erase app id
    exact ⟨fun id vm hvm => h.fewer.1 id vm (herase.1 id vm hvm),
      fun id m hm => h.fewer.2 id m (herase.2 id m hm)⟩
  · exact h.fewer

lemma fewer_forget (s : App Image) (id : String) : Fewer s (forget s id) :=
  ⟨fun _ _ h => (BTreeMap.get?_erase_eq_some.mp h).2, (fewer_erase s id).2⟩

lemma holds_reads {vmId : String} {new : Bool}
    (h : Holds (w.reads call host vmId new) checked id m) : Holds w checked id m := by
  have hsame : SameManifests w.app (readVm host vmId w.app).2 :=
    Keeps.of_eq (readOnly_readVm vmId) w.app
  unfold reads at h
  rcases hr : readVm host vmId w.app with ⟨r, app⟩
  rw [hr] at hsame h
  cases r with
  | error e => exact holds_ends (fewer_discard host vmId new hsame) h
  | ok vm =>
    rcases holds_goesOn hsame.fewer h with h | ⟨hmark, hcarries⟩
    · exact h
    · cases hmark
      cases hcarries
      exact .stored (runs_readVm hr)

lemma holds_publishes {vm : Loaded Image} {vmId : String} {new checked' : Bool}
    (hkeyed : Keyed w) (hcarried : Holds w checked' vmId vm.manifest)
    (h : Holds (w.publishes call host vmId new checked' vm) checked id m) :
    Holds w checked id m := by
  unfold publishes at h
  rw [publish_eq] at h
  cases hcid : cidFor w.app none vm.manifest.id with
  | none =>
    rw [hcid] at h
    exact holds_ends (fewer_discard host vmId new (SameManifests.refl _)) h
  | some cid =>
    rw [hcid] at h
    dsimp only [ends] at h
    generalize hw' : (⟨_, _, _, _⟩ : Admissions Image) = w' at h
    cases h with
    | stored h =>
      subst hw'
      exact .stored h
    | carried h hcarries =>
      subst hw'
      exact .carried (BTreeMap.get?_erase_eq_some.mp h).2 hcarries
    | live h =>
      subst hw'
      dsimp only at h ⊢
      rcases BTreeMap.get?_insert_eq_some.mp h with ⟨rfl, rfl⟩ | ⟨hid, h⟩
      · rw [Function.update_self, hkeyed _ _ _ hcarried]
        exact hcarried
      · rw [Function.update_of_ne (Ne.symm hid)]
        exact .live h

lemma holds_resume (hkeyed : Keyed w) (hcall : w.calls.get? call = some next) {cfg : CvmConfig}
    (h : Holds (w.resume call host cfg next) checked id m) :
    Held w checked id m
      ∨ checked = true ∧ Admits w (.resume call host cfg) id m := by
  obtain ⟨work, mark⟩ := next
  cases work with
  | storing vmId request manifest =>
    exact .inl (holds_stores (.carried hcall rfl) (store_manifest vmId manifest w.app) rfl h).held
  | preparing vmId request appId =>
    rcases holds_proceed h (.bind (sameManifests_prepareWorkDir _ _ _) fun _ =>
        .bind (sameManifests_setStarted _ _) fun _ => .pure _) with h | ⟨work, app, hruns, hcarries⟩
    · exact .inl h.held
    · simp only [runs_bind, runs_pure] at hruns
      obtain ⟨_, _, -, _, _, -, hwork, -⟩ := hruns
      cases hwork
      cases hcarries
  | planning request manifest =>
    rcases holds_proceed h (.of_eq ((readOnly_planUpdate _ _).bind fun _ => .pure _))
      with h | ⟨work, app, hruns, hcarries⟩
    · exact .inl h.held
    · simp only [runs_bind, runs_pure] at hruns
      obtain ⟨⟨newId, planned⟩, _, hplan, hwork, rfl⟩ := hruns
      cases hwork
      cases hcarries
      obtain ⟨⟨hid, _⟩, -, hsame, -⟩ := runs_planUpdate hplan
      cases hports : request.updatePorts with
      | true => exact .inr ⟨by simp, .update hcall hports (congrArg Prod.fst hplan)⟩
      | false =>
        rw [Bool.or_false]
        exact .inl ⟨manifest, .carried hcall rfl, hid.symm, (hsame hports).symm⟩
  | writing request manifest =>
    exact .inl (holds_stores (.carried hcall rfl)
      (writeUpdate_manifest request manifest w.app) rfl h).held
  | loading vmId new => exact .inl (holds_reads h).held
  | publishing vmId new vm => exact .inl (holds_publishes hkeyed (.carried hcall rfl) h).held

variable {e : AdmissionEvent Image}

lemma holds_step (hkeyed : Keyed w) (h : Holds (w.step e) checked id m) :
    Held w checked id m ∨ checked = true ∧ Admits w e id m := by
  cases e with
  | create call host cfg vmId now request =>
    rcases holds_proceed h (.of_eq ((readOnly_admitNew _ _ _).bind fun _ => .pure _))
      with h | ⟨work, app, hruns, hcarries⟩
    · exact .inl h.held
    · obtain ⟨manifest, _, hadmit, hpure⟩ := runs_bind.mp hruns
      obtain ⟨hwork, -⟩ := runs_pure.mp hpure
      cases hwork
      cases hcarries
      exact .inr ⟨rfl, .create (congrArg Prod.fst hadmit)⟩
  | update call host request =>
    rcases holds_proceed h (.of_eq ((readOnly_heldManifest _).bind fun _ => .pure _))
      with h | ⟨work, app, hruns, hcarries⟩
    · exact .inl h.held
    · obtain ⟨manifest, _, hheld, hpure⟩ := runs_bind.mp hruns
      obtain ⟨hwork, -⟩ := runs_pure.mp hpure
      cases hwork
      cases hcarries
      refine .inl (Holds.stored ?_).held
      rw [manifestAt_eq]
      exact runs_heldManifest hheld
  | resume call host cfg =>
    dsimp only [step] at h
    cases hcall : w.calls.get? call with
    | none =>
      rw [hcall] at h
      exact .inl h.held
    | some next =>
      rw [hcall] at h
      exact holds_resume hkeyed hcall h
  | quit call => exact .inl (holds_ends (SameManifests.refl _).fewer h).held
  | remove vmId =>
    rcases holds_calls (w := w) h (fewer_forget w.app vmId) rfl rfl with h | ⟨_, _, hcall, hcarries⟩
    · exact .inl h.held
    · have hheld : Holds w checked id m := .carried hcall hcarries
      exact .inl hheld.held

-- == promises

structure Consistent (w : Admissions Image) : Prop where
  keyed : Keyed w
  apart : ∀ id m id' m', Holds w true id m → Holds w true id' m' → id ≠ id' →
    Apart m.portMap m'.portMap
  unambiguous : ∀ id m, Holds w true id m → Unambiguous m.portMap

/-- A list the check has let in that the table does not show: it is in a
directory or in the hands of a call. -/
def Pending (w : Admissions Image) (id : String) (l : List PortMapping) : Prop :=
  (∃ m, manifestAt w.app id = some m ∧ w.storedChecked id = true ∧ m.portMap = l)
    ∨ ∃ call work m, w.calls.get? call = some (work, true) ∧ work.carries = some (id, m)
      ∧ m.portMap = l

def Uncontended (w : Admissions Image) (id : String) (l : List PortMapping) : Prop :=
  ∀ id' l', id' ≠ id → Pending w id' l' → Apart l l'

/-- Nothing that is admitted has a competitor for its ports. -/
def Careful (w : Admissions Image) (e : AdmissionEvent Image) : Prop :=
  ∀ id m, Admits w e id m → Uncontended w id m.portMap

lemma Admits.passes (hkeyed : Keyed w) (h : Admits w e id m) :
    m.id = id ∧ Unambiguous m.portMap
      ∧ ∀ id' vm, w.app.vms.get? id' = some vm → id' ≠ id →
          Apart m.portMap vm.manifest.portMap := by
  cases h with
  | @create call host cfg _ now request _ h =>
    have hruns : Runs (admitNew host cfg id now request) w.app m w.app :=
      Prod.ext h (readOnly_admitNew id now request w.app).symm
    obtain ⟨hm, hcheck⟩ := runs_admitNew hruns
    obtain ⟨hunambiguous, hapart⟩ := validatePortMappingConflicts_eq_ok hcheck
    obtain ⟨-, -, -, -, hid, -⟩ := createManifest_inv hm
    exact ⟨hid, hunambiguous, fun id' vm hvm _ => hapart id' vm hvm nofun⟩
  | @update call host cfg request old _ checked newId hcall hports h =>
    have hruns : Runs (planUpdate host cfg request old) w.app (newId, m) w.app :=
      Prod.ext h (readOnly_planUpdate request old w.app).symm
    obtain ⟨⟨hid, _⟩, -, -, hcheck⟩ := runs_planUpdate hruns
    obtain ⟨hunambiguous, hapart⟩ := validatePortMappingConflicts_eq_ok (hcheck hports)
    refine ⟨hid.trans (hkeyed _ _ _ (.carried hcall rfl)), hunambiguous, ?_⟩
    intro id' vm hvm hne
    refine hapart id' vm hvm fun heq => hne ?_
    rw [← hkeyed _ _ _ (.live hvm)]
    exact (Option.some.inj heq).symm

lemma Admits.apart (hkeyed : Keyed w) (hcareful : Careful w e)
    (h : Admits w e id m) {id' : String} {m' : Manifest} (h' : Holds w true id' m')
    (hne : id ≠ id') : Apart m.portMap m'.portMap := by
  generalize hmark : true = mark at h'
  cases h' with
  | live hvm => exact (h.passes hkeyed).2.2 _ _ hvm (Ne.symm hne)
  | stored hm => exact hcareful id m h _ _ (Ne.symm hne) (.inl ⟨_, hm, hmark.symm, rfl⟩)
  | carried hcall hcarries =>
    subst hmark
    exact hcareful id m h _ _ (Ne.symm hne) (.inr ⟨_, _, _, hcall, hcarries, rfl⟩)

lemma Admits.unique {id' : String} {m' : Manifest}
    (h : Admits w e id m) (h' : Admits w e id' m') : id = id' := by
  cases h with
  | create h =>
    cases h' with
    | create h' => rfl
  | update hcall hports h =>
    cases h' with
    | update hcall' hports' h' =>
      rw [hcall] at hcall'
      cases hcall'
      rfl

lemma Consistent.step (h : Consistent w) (hcareful : Careful w e) :
    Consistent (w.step e) := by
  refine ⟨?_, ?_, ?_⟩
  · intro checked id m hm
    rcases holds_step h.keyed hm with ⟨m₀, hm₀, hid, -⟩ | ⟨-, hadmits⟩
    · rw [← hid]
      exact h.keyed _ _ _ hm₀
    · exact (hadmits.passes h.keyed).1
  · intro id m id' m' hm hm' hne
    rcases holds_step h.keyed hm with ⟨m₀, hm₀, -, hports⟩ | ⟨-, hadmits⟩
    · rw [← hports]
      rcases holds_step h.keyed hm' with ⟨m₁, hm₁, -, hports'⟩ | ⟨-, hadmits'⟩
      · rw [← hports']
        exact h.apart _ _ _ _ hm₀ hm₁ hne
      · exact (hadmits'.apart h.keyed hcareful hm₀ (Ne.symm hne)).symm
    · rcases holds_step h.keyed hm' with ⟨m₁, hm₁, -, hports'⟩ | ⟨-, hadmits'⟩
      · rw [← hports']
        exact hadmits.apart h.keyed hcareful hm₁ hne
      · exact absurd (hadmits.unique hadmits') hne
  · intro id m hm
    rcases holds_step h.keyed hm with ⟨m₀, hm₀, -, hports⟩ | ⟨-, hadmits⟩
    · rw [← hports]
      exact h.unambiguous _ _ hm₀
    · exact (hadmits.passes h.keyed).2.1

end Admissions

/-- Every manifest carries the id it is kept under. -/
def App.Keyed (s : App Image) : Prop :=
  (∀ id vm, s.vms.get? id = some vm → vm.manifest.id = id)
    ∧ ∀ id m, manifestAt s id = some m → m.id = id

/-- No host port is promised twice to VMs whose ports came through the
check. -/
structure PromisedOnce (w : Admissions Image) : Prop where
  apart : ∀ id id' vm vm', w.app.vms.get? id = some vm → w.app.vms.get? id' = some vm' →
    w.liveChecked id = true → w.liveChecked id' = true → id ≠ id' →
      Apart vm.manifest.portMap vm'.manifest.portMap
  unambiguous : ∀ id vm, w.app.vms.get? id = some vm → w.liveChecked id = true →
    Unambiguous vm.manifest.portMap

namespace Admissions

lemma Consistent.promisedOnce {w : Admissions Image} (h : Consistent w) : PromisedOnce w := by
  have hlive : ∀ id vm, w.app.vms.get? id = some vm → w.liveChecked id = true →
      Holds w true id vm.manifest := by
    intro id vm hvm hchecked
    rw [← hchecked]
    exact .live hvm
  refine ⟨?_, ?_⟩
  · intro id id' vm vm' hvm hvm' hchecked hchecked' hne
    exact h.apart _ _ _ _ (hlive id vm hvm hchecked) (hlive id' vm' hvm' hchecked') hne
  · intro id vm hvm hchecked
    exact h.unambiguous _ _ (hlive id vm hvm hchecked)

lemma consistent_start (h : s.Keyed) :
    Consistent ({ app := s } : Admissions Image) := by
  have hunchecked : ∀ checked id m, Holds ({ app := s } : Admissions Image) checked id m →
      checked = false ∧ m.id = id := by
    intro checked id m hm
    cases hm with
    | live hvm => exact ⟨rfl, h.1 _ _ hvm⟩
    | stored hm => exact ⟨rfl, h.2 _ _ hm⟩
    | carried hcall hcarries => cases hcall
  refine ⟨fun checked id m hm => (hunchecked _ _ _ hm).2, ?_, ?_⟩
  · intro id m id' m' hm
    cases (hunchecked _ _ _ hm).1
  · intro id m hm
    cases (hunchecked _ _ _ hm).1

end Admissions

/-- From any VMs the VMM finds, and with any calls at any time: as long as
each check lets in what is uncontended, ports are promised once. -/
theorem ports_promised_once (s : App Image) (hkeyed : s.Keyed)
    (events : List (AdmissionEvent Image))
    (hcareful : Along Admissions.step Admissions.Careful { app := s } events) :
    PromisedOnce (events.foldl Admissions.step { app := s }) :=
  (hcareful.foldl (fun _ _ h hstep => h.step hstep)
    (Admissions.consistent_start hkeyed)).promisedOnce

-- == examples

def openCfg : CvmConfig :=
  { quietCfg with
    portMapping := { enabled := true, address := .v4 0, range := [⟨.tcp, 1, 65535⟩] } }

def onPort (port : Nat) : VmConfiguration :=
  { name := "web", image := "dstack-0.5.5", composeFile := plainCompose, vcpu := 2, memory := 2048,
    diskSize := 20, appId := some "00", stopped := true,
    ports := [{ protocol := "tcp", hostAddress := "", hostPort := port, vmPort := 80 }] }

def toTheEnd (call : Nat) : List (AdmissionEvent String) :=
  List.replicate 4 (.resume call quietHost openCfg)

def nowhere : Admissions String := { app := noVms }

lemma noVms_keyed : noVms.Keyed := by
  constructor
  · intro id vm hvm
    rw [noVms, BTreeMap.get?_empty] at hvm
    cases hvm
  · intro id m hm
    rw [manifestAt, noVms, BTreeMap.get?_empty] at hm
    cases hm

/-- Two VMs ask for one port before either is stored. -/
def twoAtOnce : List (AdmissionEvent String) :=
  [.create 0 quietHost openCfg "web-1" 0 (onPort 8080),
    .create 1 quietHost openCfg "web-2" 0 (onPort 8080)] ++ toTheEnd 0 ++ toTheEnd 1

/-- The ports of a VM, and if they were checked. -/
def portsOf (w : Admissions String) (id : String) : Option (List PortMapping × Bool) :=
  (w.app.vms.get? id).map fun vm => (vm.manifest.portMap, w.liveChecked id)

/-- Both are admitted. -/
theorem port_promised_twice :
    noVms.Keyed
      ∧ portsOf (twoAtOnce.foldl Admissions.step nowhere) "web-1"
          = some ([⟨.v4 0, .tcp, 8080, 80, none⟩], true)
      ∧ portsOf (twoAtOnce.foldl Admissions.step nowhere) "web-2"
          = some ([⟨.v4 0, .tcp, 8080, 80, none⟩], true)
      ∧ portMappingsConflict ⟨.v4 0, .tcp, 8080, 80, none⟩ ⟨.v4 0, .tcp, 8080, 80, none⟩
          = true := by
  refine ⟨noVms_keyed, ?_, ?_, ?_⟩
  all_goals decide +kernel

def Work.plans : Work Image → Bool
  | .planning _ _ => true
  | _ => false

/-- The second one asks when the first is there. -/
def oneByOne : List (AdmissionEvent String) :=
  .create 0 quietHost openCfg "web-1" 0 (onPort 8080) :: toTheEnd 0
    ++ [.create 1 quietHost openCfg "web-2" 0 (onPort 8080)]

namespace Admissions

lemma careful_resume {w : Admissions Image} {call : Nat} {cfg : CvmConfig}
    (h : (w.calls.get? call).map (·.1.plans) ≠ some true) : Careful w (.resume call host cfg) := by
  intro id m hadmits
  cases hadmits with
  | update hcall hports hplan =>
    rw [hcall] at h
    exact absurd rfl h

end Admissions

/-- The second one is refused. -/
theorem oneByOne_promised_once :
    PromisedOnce (oneByOne.foldl Admissions.step nowhere)
      ∧ portsOf (oneByOne.foldl Admissions.step nowhere) "web-1"
          = some ([⟨.v4 0, .tcp, 8080, 80, none⟩], true)
      ∧ portsOf (oneByOne.foldl Admissions.step nowhere) "web-2" = none := by
  refine ⟨ports_promised_once noVms noVms_keyed oneByOne ?_, by decide +kernel, by decide +kernel⟩
  refine ⟨?_, Admissions.careful_resume (by decide +kernel),
    Admissions.careful_resume (by decide +kernel), Admissions.careful_resume (by decide +kernel),
    Admissions.careful_resume (by decide +kernel), ?_, trivial⟩
  · -- nothing is pending yet
    rintro id m - id' l' - (⟨m', hm', -⟩ | ⟨call, work, m', hcall, -⟩)
    · cases hm'
    · cases hcall
  · -- the table shows the first one
    intro id m hadmits
    cases hadmits with
    | create h =>
      have hrefused : ((admitNew quietHost openCfg "web-2" 0 (onPort 8080)
          ((toTheEnd 0).foldl Admissions.step (nowhere.step
            (.create 0 quietHost openCfg "web-1" 0 (onPort 8080)))).app).1.toOption).isSome
            = false := by decide +kernel
      have hsome := hrefused.symm.trans (congrArg (fun r => (Except.toOption r).isSome) h)
      cases hsome

end Dstack.Vmm
