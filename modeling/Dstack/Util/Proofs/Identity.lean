/-
Host, guest and verifier derive one identity from a V3 launch.

# What has to agree

The host writes a document and the instance information from one
derivation (`Launched`). The guest derives its own values from that
information and holds the document to them; the verifier takes the
document alone. Every value but one is a function of the app-compose
file and of what the host wrote, so it agrees on any platform. The one
is the instance id.

# Where it can differ

The guest draws a new seed when the compose file has no key provider,
unless it is on SEV-SNP, and it mixes in what binds the platform's own
instance. A document made for a VM whose guest does either is refused.
That is so for a VM which simulates SEV-SNP in its manifest but runs as
a TDX guest. `KeepsInstance` is the condition under which the guest
does neither, and it is exact up to coincidence (`TellsApart`).
-/
import Dstack.Attest.AppInfo
import Dstack.Util.SystemSetup
import Dstack.Vmm.MrConfig
import Dstack.Vmm.Proofs.Launch

namespace Dstack.Util

open Lib Vmm

variable {J : JsonLibrary} {json : Json} {dir : MrConfigDir} {compose : Dstack.AppCompose}
  {p : Prepared} {text : Bytes} {env : GuestEnv} {provider : KeyProvider} {path : String}

-- == the host

structure Launched (J : JsonLibrary) (text : Bytes) (compose : Dstack.AppCompose)
    (p : Prepared) : Prop where
  appId_length : p.instanceInfo.appId.length = 20
  seed_ne : p.instanceInfo.instanceIdSeed ≠ []
  seed_length : compose.keyProvider = .none → p.instanceInfo.instanceIdSeed.length = 20
  instanceId : p.instanceInfo.instanceId
    = launchInstanceId compose p.instanceInfo.instanceIdSeed p.instanceInfo.appId
  version : p.mrConfig.version = 3
  composeHash : p.mrConfig.composeHash = sha256 text
  gpuPolicyHash : ∀ h, p.mrConfig.gpuPolicyHash = some h →
    ∃ d, gpuPolicyHash J text = .ok d ∧ d.val = h
  initScriptHashes : ∀ hs, p.mrConfig.initScriptHashes = some hs →
    hs = compose.initScript.map fun script => sha256 (utf8 script)
  appId : p.mrConfig.appId.getD [] = p.instanceInfo.appId
  boundInstanceId : p.mrConfig.instanceId.getD [] = p.instanceInfo.instanceId
  keyProvider : p.mrConfig.keyProvider = compose.keyProvider
  keyProviderId : p.mrConfig.keyProviderId = MrConfigV3.nonEmpty compose.keyProviderId

lemma launchGpuPolicyHash_ok {hasGpus : Bool} {gpu : Option Bytes} {h : Bytes}
    (hfile : dir.composeFile = .ok text)
    (hgpu : launchGpuPolicyHash J dir hasGpus = .ok gpu) (hh : gpu = some h) :
    ∃ d, gpuPolicyHash J text = .ok d ∧ d.val = h := by
  cases hasGpus with
  | false =>
    rw [launchGpuPolicyHash, if_neg (by decide), pure_eq_ok] at hgpu
    rw [← hgpu] at hh
    cases hh
  | true =>
    rw [launchGpuPolicyHash, if_pos rfl] at hgpu
    simp only [ok_iff, hfile, Except.ok.injEq, exists_eq_left'] at hgpu
    obtain ⟨d, hd, hsome⟩ := hgpu
    rw [← hsome] at hh
    exact ⟨d, hd, Option.some.inj hh⟩

variable {seed : Bytes}

lemma launchSeed_ok {info : InstanceInfo} (h : launchSeed dir compose info = .ok seed) :
    seed ≠ [] ∧ (compose.keyProvider = .none → seed.length = 20) := by
  unfold launchSeed at h
  by_cases hnew : compose.keyProvider = .none ∨ info.instanceIdSeed = []
  · rw [if_pos hnew, map_eq_ok] at h
    obtain ⟨s, -, rfl⟩ := h
    have hlen := s.property
    refine ⟨?_, fun _ => hlen⟩
    intro hnil
    rw [hnil] at hlen
    cases hlen
  · rw [if_neg hnew, pure_eq_ok] at h
    rw [not_or] at hnew
    rw [← h]
    exact ⟨hnew.2, fun hnone => absurd hnone hnew.1⟩

lemma bindInitScriptHashes_eq (c : MrConfigV3) (compose : Dstack.AppCompose) :
    ∃ scripts, bindInitScriptHashes c compose = { c with initScriptHashes := scripts }
      ∧ (c.initScriptHashes = none → ∀ hs, scripts = some hs →
        hs = compose.initScript.map fun script => sha256 (utf8 script)) := by
  unfold bindInitScriptHashes
  split
  · exact ⟨_, rfl, fun _ hs h => (Option.some.inj h).symm⟩
  · refine ⟨c.initScriptHashes, rfl, fun hnone hs h => ?_⟩
    rw [hnone] at h
    cases h

lemma prepareMrConfigV3_launched {hasGpus : Bool} (hfile : dir.composeFile = .ok text)
    (h : prepareMrConfigV3 J dir compose hasGpus = .ok p) : Launched J text compose p := by
  have hhash : dir.appComposeHash = .ok (sha256 text) := by
    rw [MrConfigDir.appComposeHash, hfile]
    rfl
  simp only [prepareMrConfigV3, ok_iff, hhash, Except.ok.injEq, exists_eq_left'] at h
  obtain ⟨gpu, hgpu, info, -, _, hlen, seed, hseed, _, -, rfl⟩ := h
  obtain ⟨hne, hseedLen⟩ := launchSeed_ok hseed
  obtain ⟨scripts, hbind, hscripts⟩ := bindInitScriptHashes_eq
    (MrConfigV3.new (if info.appId = [] then (sha256 text).take 20 else info.appId)
      (sha256 text) gpu compose.keyProvider compose.keyProviderId
      (launchInstanceId compose seed
        (if info.appId = [] then (sha256 text).take 20 else info.appId))) compose
  rw [hbind]
  exact {
    appId_length := hlen
    seed_ne := hne
    seed_length := hseedLen
    instanceId := rfl
    version := rfl
    composeHash := rfl
    gpuPolicyHash := fun _ hh => launchGpuPolicyHash_ok hfile hgpu hh
    initScriptHashes := hscripts rfl
    appId := MrConfigV3.nonEmpty_getD _
    boundInstanceId := MrConfigV3.nonEmpty_getD _
    keyProvider := rfl
    keyProviderId := rfl }

lemma prepareMrConfig_launched {manifest : Manifest} {cfg : NodeConfig} {host : LaunchHost}
    (hfile : dir.composeFile = .ok text)
    (h : prepareMrConfig J dir compose manifest cfg host = .ok (some p)) :
    Launched J text compose p := by
  simp only [prepareMrConfig, bind_eq_ok] at h
  obtain ⟨version, -, h⟩ := h
  rcases version with _ | _ | _
  · cases h
  · cases h
  · replace h : some <$> prepareMrConfigV3 J dir compose
        (manifest.gpus.any fun gpus => gpus.gpus ≠ []) = .ok (some p) := h
    rw [map_eq_ok] at h
    obtain ⟨q, hq, hsome⟩ := h
    rw [← Option.some.inj hsome]
    exact prepareMrConfigV3_launched hfile hq

namespace Launched

lemma readable (h : Launched J text compose p) : p.mrConfig.Readable := by
  refine ⟨by rw [h.version]; decide, ?_⟩
  intro hashes hsome
  rw [h.initScriptHashes hashes hsome]
  refine ⟨by rw [List.length_map]; exact compose.initScript_length, ?_⟩
  intro d hd
  obtain ⟨script, -, rfl⟩ := List.mem_map.mp hd
  exact sha256_length _

lemma agrees_iff (h : Launched J text compose p) {l : LocalMrConfigValues}
    (hcompose : l.composeHash.val = sha256 text)
    (hpolicy : Dstack.gpuPolicyHash J text = .ok l.gpuPolicyHash) (hscripts : l.initScriptHashes
      = compose.initScript.map fun script => sha256 (utf8 script))
    (happ : l.appId.val = p.instanceInfo.appId) (hkind : l.keyProvider = compose.keyProvider)
    (hid : compose.keyProviderId = [] ∨ l.keyProviderId = compose.keyProviderId) :
    Agrees p.mrConfig l ↔ l.instanceId = p.instanceInfo.instanceId := by
  constructor
  · intro hagrees
    rw [← hagrees.instanceId]
    exact h.boundInstanceId
  · intro hinst
    refine ⟨h.version, h.composeHash.trans hcompose.symm, ?_, ?_, ?_,
      h.boundInstanceId.trans hinst.symm, h.keyProvider.trans hkind.symm, ?_⟩
    · intro d hd
      obtain ⟨d', hd', rfl⟩ := h.gpuPolicyHash d hd
      rw [hpolicy] at hd'
      rw [Except.ok.inj hd']
    · intro hs hhs
      exact (h.initScriptHashes hs hhs).trans hscripts.symm
    · intro i hi
      have hdef := h.appId
      rw [hi] at hdef
      exact Eq.trans hdef happ.symm
    · intro i hi
      rw [h.keyProviderId] at hi
      obtain ⟨rfl, hne⟩ := MrConfigV3.nonEmpty_eq_some hi
      exact (hid.resolve_left hne).symm

end Launched

-- == the guest

/-- The files a host prepared, as the guest finds them. -/
def bootFiles (path : String) (text : Bytes) (compose : Dstack.AppCompose) (p : Prepared) :
    HostShared :=
  ⟨path, .ok text, compose, p.instanceInfo⟩

/-- No step of the guest up to its measured application fails. -/
structure Boots (J : JsonLibrary) (env : GuestEnv) (text : Bytes) : Prop where
  binding : ∃ b, env.platformInstanceBinding = .ok b
  getrandom : ∃ seed, env.getrandom = .ok seed
  emits : ∀ name payload, env.emitRuntimeEvent name payload = .ok ()
  policy : ∃ d, gpuPolicyHash J text = .ok d
  gpu : ∃ event, env.attestGpu = .ok event
  configPcr : ∀ id, env.measureAwsConfigPcr id = .ok ()

/-- The key provider is of the kind the compose file asks for, and the very one
if it names one. -/
def Served (compose : Dstack.AppCompose) (provider : KeyProvider) : Prop :=
  provider.kind = compose.keyProvider
    ∧ (compose.keyProviderId = [] ∨ provider.id = compose.keyProviderId)

/-- By these settings the guest has the instance id the host wrote down. -/
def KeepsInstance (env : GuestEnv) (compose : Dstack.AppCompose) : Prop :=
  compose.noInstanceId = true ∨ env.isSnp = true
    ∨ (compose.keyProvider ≠ .none ∧ env.platformInstanceBinding = .ok none)

lemma mixedBinding_ok (hboots : Boots J env text) : ∃ b, mixedBinding env = .ok b := by
  unfold mixedBinding
  split
  · exact ⟨none, rfl⟩
  · exact hboots.binding

lemma guestSeed_ok (hboots : Boots J env text) (shared : HostShared) :
    ∃ seed, guestSeed env shared = .ok seed := by
  unfold guestSeed
  split
  · obtain ⟨seed, hseed⟩ := hboots.getrandom
    rw [hseed]
    exact ⟨seed.val, rfl⟩
  · exact ⟨_, rfl⟩

lemma measureGpu_ok (hboots : Boots J env text) :
    ∃ d event, gpuPolicyHash J text = .ok d
      ∧ measureGpu J env (bootFiles path text compose p) = .ok (d, event) := by
  obtain ⟨d, hd⟩ := hboots.policy
  obtain ⟨event, hevent⟩ := hboots.gpu
  refine ⟨d, event, hd, ?_⟩
  simp only [measureGpu, measureGpuPolicy, bootFiles, ok_iff, Except.ok.injEq, exists_eq_left',
    hd, hevent, hboots.emits, exists_const]
  exact ⟨d, ⟨trivial, rfl⟩, rfl⟩

lemma measureAppInfo_ok (hlaunch : Launched J text compose p) (hboots : Boots J env text)
    {instanceId : Bytes} (hseed : guestSeed env (bootFiles path text compose p) = .ok seed)
    (hid : guestInstanceId env (bootFiles path text compose p) seed p.instanceInfo.appId
      = .ok instanceId) :
    ∃ i, measureAppInfo J env (bootFiles path text compose p) = .ok i
      ∧ i.instanceInfo = ⟨seed, instanceId, p.instanceInfo.appId⟩
      ∧ i.composeHash.val = sha256 text
      ∧ gpuPolicyHash J text = .ok i.gpuPolicyHash
      ∧ i.initScriptHashes = compose.initScript.map fun script => sha256 (utf8 script) := by
  obtain ⟨d, event, hd, hgpu⟩ : ∃ d event, gpuPolicyHash J text = .ok d
      ∧ measureGpu J env (bootFiles path text compose p) = .ok (d, event) :=
    measureGpu_ok hboots
  have happ : p.instanceInfo.appId ≠ [] := by
    intro hnil
    have hlen := hlaunch.appId_length
    rw [hnil] at hlen
    cases hlen
  have hscripts : ∀ hashes : List Bytes,
      hashes.forM (env.emitRuntimeEvent "init-script-hash") = .ok () := by
    intro hashes
    rw [Result.forM_eq_ok]
    intro h _
    exact hboots.emits _ h
  refine ⟨⟨⟨seed, instanceId, p.instanceInfo.appId⟩, ⟨sha256 text, sha256_length _⟩, d,
    compose.initScript.map fun script => sha256 (utf8 script), event⟩, ?_, rfl, rfl, hd, rfl⟩
  have hhash : sha256File (bootFiles path text compose p).composeFile
      = .ok ⟨sha256 text, sha256_length _⟩ := rfl
  have happId : (if (bootFiles path text compose p).instanceInfo.appId = []
      then (sha256 text).take 20 else (bootFiles path text compose p).instanceInfo.appId)
      = p.instanceInfo.appId := if_neg happ
  simp only [measureAppInfo, hhash, ok_iff, Except.ok.injEq, exists_eq_left', happId,
    hlaunch.appId_length, hseed, hid, hboots.emits, hscripts, hgpu, hboots.configPcr,
    exists_const, true_and]
  rfl

-- == the instance

lemma guestSeed_kept (hlaunch : Launched J text compose p)
    (hkeeps : env.isSnp = true ∨ compose.keyProvider ≠ .none) :
    guestSeed env (bootFiles path text compose p) = .ok p.instanceInfo.instanceIdSeed := by
  refine if_neg ?_
  rintro (⟨hnone, hsnp⟩ | hempty)
  · rcases hkeeps with h | h
    · exact hsnp h
    · exact h hnone
  · exact hlaunch.seed_ne hempty

lemma guestSeed_new (hnone : compose.keyProvider = .none) (hsnp : ¬ env.isSnp = true) :
    guestSeed env (bootFiles path text compose p) = (·.val) <$> env.getrandom :=
  if_pos (Or.inl ⟨hnone, hsnp⟩)

lemma guestInstanceId_none (hno : compose.noInstanceId = true) (seed appId : Bytes) :
    guestInstanceId env (bootFiles path text compose p) seed appId = .ok [] :=
  if_pos hno

lemma guestInstanceId_bound (hno : ¬ compose.noInstanceId = true) {b : Option Bytes}
    (hb : mixedBinding env = .ok b) (seed appId : Bytes) :
    guestInstanceId env (bootFiles path text compose p) seed appId
      = .ok ((sha256 (seed ++ appId ++ b.getD [])).take 20) := by
  refine (if_neg hno).trans ?_
  rw [hb]
  rfl

lemma instanceId_eq_of_keeps (hlaunch : Launched J text compose p)
    (hkeeps : KeepsInstance env compose) {instanceId : Bytes}
    (hseed : guestSeed env (bootFiles path text compose p) = .ok seed)
    (hid : guestInstanceId env (bootFiles path text compose p) seed p.instanceInfo.appId
      = .ok instanceId) : instanceId = p.instanceInfo.instanceId := by
  rw [hlaunch.instanceId, launchInstanceId]
  by_cases hno : compose.noInstanceId = true
  · rw [guestInstanceId_none hno] at hid
    rw [if_pos hno]
    exact (Except.ok.inj hid).symm
  · have hkeeps' := hkeeps.resolve_left hno
    have hkept : guestSeed env (bootFiles path text compose p)
        = .ok p.instanceInfo.instanceIdSeed :=
      guestSeed_kept hlaunch (hkeeps'.imp id And.left)
    have hbinding : mixedBinding env = .ok none := by
      unfold mixedBinding
      split
      · rfl
      · rename_i hsnp
        exact (hkeeps'.resolve_left hsnp).2
    rw [hkept] at hseed
    rw [guestInstanceId_bound hno hbinding] at hid
    rw [if_neg hno, Except.ok.inj hseed, ← Except.ok.inj hid]
    simp

/-- No coincidence: the guest's generator does not repeat the host's seed,
and the guest's way to an instance id does not meet the host's in the
twenty bytes that are kept of the digest. -/
structure TellsApart (env : GuestEnv) (p : Prepared) (seed : Bytes) : Prop where
  fresh : ∀ s, env.getrandom = .ok s → s.val ≠ p.instanceInfo.instanceIdSeed
  apart : ∀ b, mixedBinding env = .ok b →
    (sha256 (seed ++ p.instanceInfo.appId ++ b.getD [])).take 20
      = (sha256 (p.instanceInfo.instanceIdSeed ++ p.instanceInfo.appId)).take 20 →
    seed ++ p.instanceInfo.appId ++ b.getD []
      = p.instanceInfo.instanceIdSeed ++ p.instanceInfo.appId

lemma platformInstanceBinding_ne {b : Bytes}
    (h : env.platformInstanceBinding = .ok (some b)) : b ≠ [] := by
  have hlen : b.length = 32 := by
    unfold GuestEnv.platformInstanceBinding at h
    split at h
    · simp only [ok_iff, Option.some.injEq] at h
      obtain ⟨_, -, _, -, rfl⟩ := h
      exact sha256_length _
    · simp only [ok_iff, Option.some.injEq] at h
      obtain ⟨_, -, _, -, _, -, _, -, rfl⟩ := h
      exact sha256_length _
    · cases h
  intro hnil
  rw [hnil] at hlen
  cases hlen

lemma keeps_of_instanceId_eq (hlaunch : Launched J text compose p)
    (hboots : Boots J env text) {instanceId : Bytes}
    (hseed : guestSeed env (bootFiles path text compose p) = .ok seed)
    (hid : guestInstanceId env (bootFiles path text compose p) seed p.instanceInfo.appId
      = .ok instanceId)
    (htells : TellsApart env p seed) (heq : instanceId = p.instanceInfo.instanceId) :
    KeepsInstance env compose := by
  by_cases hno : compose.noInstanceId = true
  · exact Or.inl hno
  by_cases hsnp : env.isSnp = true
  · exact Or.inr (Or.inl hsnp)
  obtain ⟨b, hb⟩ := mixedBinding_ok hboots
  have hpaths : seed ++ p.instanceInfo.appId ++ b.getD []
      = p.instanceInfo.instanceIdSeed ++ p.instanceInfo.appId := by
    refine htells.apart b hb ?_
    rw [guestInstanceId_bound hno hb] at hid
    rw [hlaunch.instanceId, launchInstanceId, if_neg hno] at heq
    exact (Except.ok.inj hid).trans heq
  have hplatform : env.platformInstanceBinding = .ok b := by
    rw [mixedBinding, if_neg hsnp] at hb
    exact hb
  refine Or.inr (Or.inr ⟨?_, ?_⟩)
  · -- without a key provider both seeds are new, of twenty bytes each
    intro hnone
    rw [guestSeed_new hnone hsnp, map_eq_ok] at hseed
    obtain ⟨s, hs, rfl⟩ := hseed
    rw [List.append_assoc] at hpaths
    have hlen : s.val.length = p.instanceInfo.instanceIdSeed.length := by
      rw [s.property, hlaunch.seed_length hnone]
    exact htells.fresh s hs (List.append_inj hpaths hlen).1
  · cases b with
    | none => exact hplatform
    | some b =>
      exfalso
      have hlen := congrArg List.length hpaths
      simp only [Option.getD_some, List.length_append] at hlen
      have hbne : 0 < b.length := List.length_pos_iff.mpr (platformInstanceBinding_ne hplatform)
      by_cases hnone : compose.keyProvider = .none
      · rw [guestSeed_new hnone hsnp, map_eq_ok] at hseed
        obtain ⟨s, -, rfl⟩ := hseed
        rw [s.property, hlaunch.seed_length hnone] at hlen
        omega
      · rw [guestSeed_kept hlaunch (Or.inr hnone)] at hseed
        rw [Except.ok.inj hseed] at hlen
        omega

-- == acceptance

/-- The guest finds its own values in the document. -/
def Accepts (json : Json) (document : String) (i : AppInfo) (provider : KeyProvider) : Prop :=
  ∃ l c, i.localValues provider = .ok l ∧ verifyMrConfigV3Document json document l = .ok c

lemma accepts_iff (hlaunch : Launched J text compose p)
    (hread : json.mrConfigV3 p.document = .ok p.mrConfig) (hserved : Served compose provider)
    {i : AppInfo} (happ : i.instanceInfo.appId = p.instanceInfo.appId)
    (hcompose : i.composeHash.val = sha256 text)
    (hpolicy : gpuPolicyHash J text = .ok i.gpuPolicyHash) (hscripts : i.initScriptHashes
      = compose.initScript.map fun script => sha256 (utf8 script)) :
    Accepts json p.document i provider
      ↔ i.instanceInfo.instanceId = p.instanceInfo.instanceId := by
  have hlen : i.instanceInfo.appId.length = 20 := happ ▸ hlaunch.appId_length
  have hlocal : i.localValues provider = .ok ⟨i.composeHash, i.gpuPolicyHash,
      i.initScriptHashes, ⟨i.instanceInfo.appId, hlen⟩, i.instanceInfo.instanceId,
      provider.kind, provider.id⟩ := dif_pos hlen
  have hagrees := hlaunch.agrees_iff (l := ⟨i.composeHash, i.gpuPolicyHash,
    i.initScriptHashes, ⟨i.instanceInfo.appId, hlen⟩, i.instanceInfo.instanceId,
    provider.kind, provider.id⟩) hcompose hpolicy hscripts happ hserved.1 hserved.2
  unfold Accepts
  simp only [hlocal, Except.ok.injEq, verifyMrConfigV3Document_eq_ok, hread]
  constructor
  · rintro ⟨l, c, rfl, rfl, h⟩
    exact hagrees.mp h
  · intro h
    exact ⟨_, _, rfl, rfl, hagrees.mpr h⟩

/-- A guest of a launch measures itself, and is accepted if it keeps its
instance; if it does not, it is refused but for a coincidence. -/
lemma guest_accepted (hlaunch : Launched J text compose p)
    (hread : json.mrConfigV3 p.document = .ok p.mrConfig) (hboots : Boots J env text)
    (hserved : Served compose provider) :
    ∃ i, measureAppInfo J env (bootFiles path text compose p) = .ok i
      ∧ (KeepsInstance env compose → Accepts json p.document i provider)
      ∧ (TellsApart env p i.instanceInfo.instanceIdSeed →
        Accepts json p.document i provider → KeepsInstance env compose) := by
  obtain ⟨seed, hseed⟩ := guestSeed_ok hboots (bootFiles path text compose p)
  obtain ⟨instanceId, hid⟩ : ∃ instanceId, guestInstanceId env (bootFiles path text compose p)
      seed p.instanceInfo.appId = .ok instanceId := by
    by_cases hno : compose.noInstanceId = true
    · exact ⟨[], guestInstanceId_none hno _ _⟩
    · obtain ⟨b, hb⟩ := mixedBinding_ok hboots
      exact ⟨_, guestInstanceId_bound hno hb _ _⟩
  obtain ⟨i, hi, hinfo, hcompose, hpolicy, hscripts⟩ := measureAppInfo_ok hlaunch hboots hseed hid
  have haccepts := accepts_iff hlaunch hread hserved (by rw [hinfo]) hcompose hpolicy hscripts
  rw [hinfo] at haccepts
  refine ⟨i, hi, ?_, ?_⟩
  · intro hkeeps
    exact haccepts.mpr (instanceId_eq_of_keeps hlaunch hkeeps hseed hid)
  · intro htells haccepted
    rw [hinfo] at htells
    exact keeps_of_instanceId_eq hlaunch hboots hseed hid htells (haccepts.mp haccepted)

/-- The guest gets the document, and its hardware vouches for it. -/
def Bound (env : GuestEnv) (binding : LaunchBinding) (document : String) : Prop :=
  binding.mrConfigDocument = .ok document
    ∧ ((env.detectTeeVariant = .ok .dstackAmdSevSnp
        ∧ binding.snpHostData = .ok (MrConfigV3.snpHostDataFromDocument document))
      ∨ (env.detectTeeVariant = .ok .dstackTdx
        ∧ binding.mrConfigId = .ok (MrConfigV3.tdxMrConfigIdFromDocument document)))

/-- An accepted guest whose register stands for the document passes
`verify_app`. -/
lemma verifyApp_of_accepts {i : AppInfo} {binding : LaunchBinding} {document : String}
    {hexFmt : Bytes → String} (haccepts : Accepts json document i provider)
    (hbound : Bound env binding document) (hserved : Served compose provider)
    (hboots : Boots J env text) :
    verifyApp json hexFmt env binding (bootFiles path text compose p) i provider = .ok () := by
  obtain ⟨l, c, hl, hverify⟩ := haccepts
  obtain ⟨hc, hagrees⟩ := verifyMrConfigV3Document_eq_ok.mp hverify
  have hpin : verifyKeyProviderId hexFmt compose.keyProviderId provider.id = .ok () := by
    unfold verifyKeyProviderId
    split
    · rfl
    · rename_i hne
      rw [ensure_eq_ok]
      exact (hserved.2.resolve_left hne).symm
  obtain ⟨mode, hmode, hregister⟩ : ∃ mode, env.detectTeeVariant = .ok mode
      ∧ verifyMrConfigIdForMode json binding mode l = .ok () := by
    rcases hbound with ⟨hdoc, ⟨hmode, hhost⟩ | ⟨hmode, hid⟩⟩
    · exact ⟨_, hmode, verifySnpMrConfig_eq_ok.mpr ⟨document, c, hdoc, hc, hagrees, hhost⟩⟩
    · exact ⟨_, hmode, (verifyTdxMrConfigId_v3 hid hdoc hc).mpr hagrees⟩
  simp only [verifyApp, bootFiles, hl, hmode, hregister, hpin, hboots.emits, ok_iff,
    Except.ok.injEq, exists_eq_left', exists_const, and_self]

-- == the verifier

/-- The name under which the guest reports a key provider. -/
def reportedName : KeyProviderKind → String
  | .none => "none"
  | .local => "local-sgx"
  | .kms => "kms"
  | .tpm => "tpm"

lemma keyProviderName_eq (c : MrConfigV3) : c.keyProviderName = reportedName c.keyProvider := by
  unfold MrConfigV3.keyProviderName
  cases c.keyProvider <;> rfl

lemma eq_or_absent {o : Option Bytes} {v : Bytes} (h : ∀ a, o = some a → a = v) :
    o.getD [] = v ∨ o.getD [] = [] := by
  cases o with
  | none => exact Or.inr rfl
  | some a => exact Or.inl (h a rfl)

lemma decode_accepted {D : Attest.Decoders} {document external embedded raw : String}
    {l : LocalMrConfigValues} {c : MrConfigV3} {report : Bytes}
    {parsed : SevSnp.ParsedAmdSnpReport} {mrConfig : Option String} {vmConfig : Dstack.VmConfig}
    (haccept : verifyMrConfigV3Document D.json document l = .ok c)
    (hreport : SevSnp.parseUnverifiedAmdSnpReport D.snp report = .ok parsed)
    (hbound : MrConfigV3.snpHostDataFromDocument document = parsed.hostData)
    (hraw : Attest.resolveVmConfig external embedded = .ok raw)
    (hdocument : Attest.chooseMrConfigDocument D mrConfig raw = .ok (some document))
    (hconfig : Attest.parseVmConfig D raw = .ok vmConfig) :
    ∃ i, Attest.decodeAppInfoSevSnp D report mrConfig embedded external = .ok i
      ∧ i.composeHash = l.composeHash.val ∧ i.instanceId = l.instanceId
      ∧ (i.appId = l.appId.val ∨ i.appId = [])
      ∧ (i.initScriptHashes = some l.initScriptHashes ∨ i.initScriptHashes = none)
      ∧ ∃ id, i.keyProviderInfo = keyProviderInfoJson (reportedName l.keyProvider) (hexEncode id)
        ∧ (id = l.keyProviderId ∨ id = []) := by
  obtain ⟨hc, hagrees⟩ := verifyMrConfigV3Document_eq_ok.mp haccept
  have hhost : Attest.verifySnpMrConfigHostData D.json document parsed.hostData = .ok c := by
    simp only [Attest.verifySnpMrConfigHostData, hc, ok_iff, Except.ok.injEq, exists_eq_left',
      hbound, exists_const, true_and]
  have hdecode : Attest.decodeAppInfoSevSnp D report mrConfig embedded external = .ok {
      appId := c.appId.getD []
      composeHash := c.composeHash
      instanceId := c.instanceId.getD []
      deviceId := sha256 parsed.chipId
      mrSystem := sha256 parsed.measurement
      mrAggregated := sha256 (parsed.measurement ++ parsed.hostData)
      osImageHash := vmConfig.osImageHash
      keyProviderInfo := Attest.keyProviderInfoFromMrConfig c
      initScriptHashes := c.initScriptHashes } := by
    simp only [Attest.decodeAppInfoSevSnp, hreport, hraw, hdocument, ok_iff, hhost, hconfig,
      Except.ok.injEq, exists_eq_left', Option.some.injEq]
    rfl
  refine ⟨_, hdecode, hagrees.composeHash, hagrees.instanceId, eq_or_absent hagrees.appId, ?_,
    c.keyProviderId.getD [], ?_, eq_or_absent hagrees.keyProviderId⟩
  · cases hscripts : c.initScriptHashes with
    | none => exact Or.inr rfl
    | some hs =>
      left
      rw [← hagrees.initScriptHashes hs hscripts]
  · show Attest.keyProviderInfoFromMrConfig c = _
    rw [Attest.keyProviderInfoFromMrConfig, keyProviderName_eq, hagrees.keyProvider]

-- == agreement

/-- Host, guest and verifier derive one identity from a V3 launch, if the
guest keeps its instance: the guest accepts the host's document exactly
then, but for a coincidence, and a verifier reads the guest's values off
every document a guest accepts. -/
theorem host_guest_verifier_agree {manifest : Manifest} {cfg : NodeConfig} {host : LaunchHost}
    (hfile : dir.composeFile = .ok text)
    (hprepare : prepareMrConfig J dir compose manifest cfg host = .ok (some p))
    (hread : p.mrConfig.Readable → json.mrConfigV3 p.document = .ok p.mrConfig)
    (hboots : Boots J env text) (hserved : Served compose provider) :
    (∃ i, measureAppInfo J env (bootFiles path text compose p) = .ok i
      ∧ (KeepsInstance env compose → Accepts json p.document i provider)
      ∧ (TellsApart env p i.instanceInfo.instanceIdSeed →
        Accepts json p.document i provider → KeepsInstance env compose))
    ∧ ∀ (D : Attest.Decoders) (document external embedded raw : String)
        (l : LocalMrConfigValues) (c : MrConfigV3) (report : Bytes)
        (parsed : SevSnp.ParsedAmdSnpReport) (mrConfig : Option String)
        (vmConfig : Dstack.VmConfig),
      verifyMrConfigV3Document D.json document l = .ok c →
      SevSnp.parseUnverifiedAmdSnpReport D.snp report = .ok parsed →
      MrConfigV3.snpHostDataFromDocument document = parsed.hostData →
      Attest.resolveVmConfig external embedded = .ok raw →
      Attest.chooseMrConfigDocument D mrConfig raw = .ok (some document) →
      Attest.parseVmConfig D raw = .ok vmConfig →
      ∃ i, Attest.decodeAppInfoSevSnp D report mrConfig embedded external = .ok i
        ∧ i.composeHash = l.composeHash.val ∧ i.instanceId = l.instanceId
        ∧ (i.appId = l.appId.val ∨ i.appId = [])
        ∧ (i.initScriptHashes = some l.initScriptHashes ∨ i.initScriptHashes = none)
        ∧ ∃ id, i.keyProviderInfo
            = keyProviderInfoJson (reportedName l.keyProvider) (hexEncode id)
          ∧ (id = l.keyProviderId ∨ id = []) := by
  constructor
  · have hlaunch := prepareMrConfig_launched hfile hprepare
    exact guest_accepted hlaunch (hread hlaunch.readable) hboots hserved
  · intro D document external embedded raw l c report parsed mrConfig vmConfig haccept hreport
      hbound hraw hdocument hconfig
    exact decode_accepted haccept hreport hbound hraw hdocument hconfig

-- == examples

def plainJson : JsonLibrary := ⟨Bytes, .ok, fun _ _ => none, .ok⟩

def readerOf (c : MrConfigV3) : Json where
  vmConfig _ := .ok {}
  mrConfigV3 document :=
    if document = c.toCanonicalJson then .ok c
    else .error "expected value at line 1 column 1"
  mrConfigMember _ := .absent

def keylessCompose : Dstack.AppCompose where
  manifestVersion := "3"
  initScript := ["echo hello"]

def freshDir : MrConfigDir where
  composeFile := .ok (utf8 "\x7b\x7d")
  instanceInfo := .ok (some { appId := List.replicate 20 0x11 })
  writeInstanceInfo _ := .ok ()
  getrandom := .ok ⟨List.replicate 20 0x22, rfl⟩

def qemuGuest (hasTdx hasSevSnp : Bool) : GuestEnv where
  hasTdx := hasTdx
  hasSevSnp := hasSevSnp
  productName := some "qemu\n"
  gcpAkEcc := .error "no vTPM"
  gcpAkRsa := .error "no vTPM"
  openNitroTpm := .error "no TPM device"
  endorsementPublicArea := .error "no TPM device"
  flushEndorsement := .error "no TPM device"
  getrandom := .ok ⟨List.replicate 20 0x33, rfl⟩
  emitRuntimeEvent _ _ := .ok ()
  attestGpu := .ok none
  detectTpm := .error "no TPM device"
  pcrExtend _ := .error "no TPM device"
  pcrRead := .error "no TPM device"

def simulatingManifest : Manifest :=
  { gpuManifest with gpus := none, noTee := false, simulatedTee := some .dstackAmdSevSnp }

/-- A VM that simulates SEV-SNP is given an instance id as on TDX, and the
guest does not find its own in the document. -/
theorem simulating_vm_is_refused :
    ∃ p i l, prepareMrConfig plainJson freshDir keylessCompose simulatingManifest gpuNode
        twoNodeHost = .ok (some p)
      ∧ measureAppInfo plainJson (qemuGuest true false)
        (bootFiles "" (utf8 "\x7b\x7d") keylessCompose p) = .ok i
      ∧ Served keylessCompose (.none "")
      ∧ i.localValues (.none "") = .ok l
      ∧ (readerOf p.mrConfig).mrConfigV3 p.document = .ok p.mrConfig
      ∧ verifyMrConfigV3Document (readerOf p.mrConfig) p.document l
        = .error "Invalid mr_config instance_id" := by
  refine ⟨_, _, _, rfl, rfl, ⟨rfl, Or.inl rfl⟩, rfl, if_pos rfl, ?_⟩
  decide +kernel

def snpManifest : Manifest := { gpuManifest with gpus := none }

def snpNode : NodeConfig := { gpuNode with platform := some .amdSevSnp }

lemma qemuGuest_boots (hasTdx hasSevSnp : Bool) (h : (hasTdx || hasSevSnp) = true)
    (text : Bytes) : Boots plainJson (qemuGuest hasTdx hasSevSnp) text where
  binding := ⟨none, rfl⟩
  getrandom := ⟨_, rfl⟩
  emits _ _ := rfl
  policy := ⟨_, rfl⟩
  gpu := ⟨none, rfl⟩
  configPcr _ := by
    revert h
    cases hasTdx <;> cases hasSevSnp
    · intro h
      cases h
    all_goals exact fun _ => rfl

private def plainTcb : SevSnp.AmdSnpTcbVersion := ⟨none, 4, 0, 22, 213⟩

def reportOf (document : String) : SevSnp.AttestationReport where
  version := 2
  vmpl := 0
  cpuidFamId := none
  cpuidModId := none
  policyDebugAllowed := false
  policyMigrateMaAllowed := false
  policySmtAllowed := true
  policyRaplDis := false
  policyCiphertextHiding := false
  keyInfoMaskChipKey := false
  keyInfoSigningKey := 0
  platSmtEnabled := true
  platRaplDisabled := false
  platCiphertextHidingEnabled := false
  measurement := zeros 48
  reportData := zeros 64
  hostData := MrConfigV3.snpHostDataFromDocument document
  chipId := zeros 64
  tcbInfo := ⟨plainTcb, plainTcb, plainTcb, plainTcb⟩

def decodersOf (c : MrConfigV3) : Attest.Decoders where
  json := readerOf c
  parseTdxQuote _ := .error "invalid quote"
  nsmPcrs _ := .error "invalid document"
  cbor := ⟨fun _ => .error "not CBOR", fun _ => .error "not CBOR",
    fun _ => .error "not CBOR", fun _ => .error "not CBOR"⟩
  snp := ⟨Unit, fun _ => .ok (reportOf c.toCanonicalJson), fun _ => .error "",
    fun _ _ => .error "", fun _ _ _ => .error ""⟩

lemma parseReport_of (c : MrConfigV3) {bytes : Bytes} (hlen : bytes.length = 1184) :
    SevSnp.parseUnverifiedAmdSnpReport (decodersOf c).snp bytes
      = .ok ⟨zeros 48, zeros 64, MrConfigV3.snpHostDataFromDocument c.toCanonicalJson,
        zeros 64⟩ := by
  have hfield : ∀ (field : Bytes) (n : Nat) (name : String), field.length = n →
      SevSnp.fieldPrefix field n name = .ok field := by
    intro field n name h
    rw [SevSnp.fieldPrefix, bind_eq_ok]
    refine ⟨(), ensure_eq_ok.mpr (Nat.le_of_eq h.symm), ?_⟩
    rw [pure_eq_ok]
    exact List.take_of_length_le (Nat.le_of_eq h)
  simp only [SevSnp.parseUnverifiedAmdSnpReport, SevSnp.decodeAmdSnpReport,
    SevSnp.parsedAmdSnpReportFromReport, ok_iff]
  exact ⟨reportOf c.toCanonicalJson, ⟨(), hlen, rfl⟩, _, hfield _ _ _ (zeros_length 48), _,
    hfield _ _ _ (zeros_length 64), _, hfield _ _ _ (sha256_length _), _,
    hfield _ _ _ (zeros_length 64), rfl⟩

/-- On SEV-SNP host, guest and verifier agree. -/
theorem snp_launch_is_agreed :
    ∃ p i l info, prepareMrConfig plainJson freshDir keylessCompose snpManifest snpNode
        twoNodeHost = .ok (some p)
      ∧ measureAppInfo plainJson (qemuGuest false true)
        (bootFiles "" (utf8 "\x7b\x7d") keylessCompose p) = .ok i
      ∧ i.localValues (.none "") = .ok l
      ∧ Attest.decodeAppInfoSevSnp (decodersOf p.mrConfig) (zeros 1184) (some p.document) "" ""
        = .ok info
      ∧ info.composeHash = l.composeHash.val ∧ info.instanceId = l.instanceId := by
  obtain ⟨p, hp⟩ : ∃ p, prepareMrConfig plainJson freshDir keylessCompose snpManifest snpNode
      twoNodeHost = .ok (some p) := ⟨_, rfl⟩
  have hserved : Served keylessCompose (.none "") := ⟨rfl, Or.inl rfl⟩
  have hread : p.mrConfig.Readable →
      (readerOf p.mrConfig).mrConfigV3 p.document = .ok p.mrConfig := fun _ => if_pos rfl
  obtain ⟨⟨i, hi, haccepts, -⟩, hverifier⟩ := host_guest_verifier_agree rfl hp hread
    (qemuGuest_boots false true rfl (utf8 "\x7b\x7d")) hserved
  obtain ⟨l, c, hl, hverify⟩ := haccepts (Or.inr (Or.inl rfl))
  obtain ⟨info, hinfo, hcompose, hinstance, -⟩ := hverifier
    (decodersOf p.mrConfig) p.document "" "" "" l c (zeros 1184) _ (some p.document) {} hverify
    (parseReport_of p.mrConfig (zeros_length 1184)) rfl rfl rfl rfl
  exact ⟨p, i, l, info, hp, hi, hl, hinfo, hcompose, hinstance⟩

/-- A guest that keeps its instance and whose register holds what the launch
document stands for gets through its own boot checks. -/
theorem launched_guest_verifies {manifest : Manifest} {cfg : NodeConfig} {host : LaunchHost}
    {binding : LaunchBinding} {hexFmt : Bytes → String} (hfile : dir.composeFile = .ok text)
    (hprepare : prepareMrConfig J dir compose manifest cfg host = .ok (some p))
    (hread : p.mrConfig.Readable → json.mrConfigV3 p.document = .ok p.mrConfig)
    (hboots : Boots J env text) (hserved : Served compose provider)
    (hkeeps : KeepsInstance env compose) (hbound : Bound env binding p.document) :
    ∃ i, measureAppInfo J env (bootFiles path text compose p) = .ok i
      ∧ verifyApp json hexFmt env binding (bootFiles path text compose p) i provider = .ok () := by
  have hlaunch := prepareMrConfig_launched hfile hprepare
  obtain ⟨i, hi, haccepts, -⟩ := guest_accepted hlaunch (hread hlaunch.readable) hboots hserved
  exact ⟨i, hi, verifyApp_of_accepts (haccepts hkeeps) hbound hserved hboots⟩

def snpBinding (document : String) : LaunchBinding :=
  ⟨.error "", .ok document, .ok (MrConfigV3.snpHostDataFromDocument document)⟩

/-- The guest on SEV-SNP accepts what its host prepared. -/
theorem snp_guest_verifies :
    ∃ p i, prepareMrConfig plainJson freshDir keylessCompose snpManifest snpNode twoNodeHost
        = .ok (some p)
      ∧ verifyApp (readerOf p.mrConfig) hexEncode (qemuGuest false true) (snpBinding p.document)
        (bootFiles "" (utf8 "\x7b\x7d") keylessCompose p) i (.none "") = .ok () := by
  obtain ⟨p, hp⟩ : ∃ p, prepareMrConfig plainJson freshDir keylessCompose snpManifest snpNode
      twoNodeHost = .ok (some p) := ⟨_, rfl⟩
  have hbound : Bound (qemuGuest false true) (snpBinding p.document) p.document :=
    ⟨rfl, .inl ⟨rfl, rfl⟩⟩
  have hserved : Served keylessCompose (.none "") := ⟨rfl, Or.inl rfl⟩
  have hread : p.mrConfig.Readable →
      (readerOf p.mrConfig).mrConfigV3 p.document = .ok p.mrConfig := fun _ => if_pos rfl
  obtain ⟨i, -, h⟩ := launched_guest_verifies rfl hp hread (qemuGuest_boots false true rfl _)
    hserved (.inr (.inl rfl)) hbound
  exact ⟨p, i, hp, h⟩

end Dstack.Util
