/-
Root keys on disk are of one generation.

The ECDSA root key is the last file of every attempt and no attempt
starts once it is there with the other one, so the directory goes
through three phases: nothing is running and there is no ECDSA key yet;
an attempt has made some of its writes, not the last; an attempt has
made all of them. In the third phase every file but one was written by
that attempt, or reissued from its keys, and the phase is never left.

The one file is the bootstrap info. Only `Onboard.Bootstrap` writes it
and it does so first, so what an interrupted bootstrap published stays
when the attempt that succeeds is of another kind.
-/
import Dstack.Attest.Proofs.Wire
import Dstack.Kms.Onboard

namespace Dstack.Kms.Onboard

open Lib Attest

variable {L : KeyLibrary}

-- == generations

variable (L) in
def Certificate.Links (c : Certificate) (key signer : Bytes) : Prop :=
  c.publicKey = L.publicKeyDer key ∧ c.signerKey = L.publicKeyDer signer

variable (L) in

/-- All keys in a directory were made together. -/
structure OneGeneration (g : Secrets) (d : CertDir) : Prop where
  rootCaKey : d.rootCaKey = some g.caKey
  k256Key : d.k256Key = some g.k256Key
  tmpCaKey : d.tmpCaKey = some g.tmpCaKey
  rpcKey : d.rpcKey = some g.rpcKey
  rootCaCert : ∃ c, d.rootCaCert = some c ∧ c.Links L g.caKey g.caKey
  tmpCaCert : ∃ c, d.tmpCaCert = some c ∧ c.Links L g.tmpCaKey g.tmpCaKey
  rpcCert : ∃ c, d.rpcCert = some c ∧ c.Links L g.rpcKey g.caKey

variable (L) in
def BootstrapResponse.Names (i : BootstrapResponse) (g : Secrets) : Prop :=
  i.caPubkey = L.publicKeyDer g.caKey ∧ i.k256Pubkey = L.verifyingKey g.k256Key

variable (L) in
/-- The bootstrap info that `get_meta` publishes, if any, is about a
generation's root keys. -/
def CertDir.InfoNames (d : CertDir) (g : Secrets) : Prop :=
  ∀ i, d.bootstrapInfo = some i → i.Names L g

variable (L) in

/-- A bootstrap, or an attempt that found no bootstrap information of other
keys. -/
def Attempt.Clean (o : Attempt) : Prop :=
  o.kind = .bootstrap ∨ ∀ i, o.foundInfo = some i → i.Names L o.secrets

-- == writes

variable (L) in
structure Keys.Linked (k : Keys) : Prop where
  tmpCaCert : k.tmpCaCert.Links L k.tmpCaKey k.tmpCaKey
  caCert : k.caCert.Links L k.caKey k.caKey
  rpcCert : k.rpcCert.Links L k.rpcKey k.caKey

variable {H : Host}

lemma Keys.fromKeys_ok {secrets : Secrets} {domain : String} {attest : Bool}
    {k : Keys} (h : Keys.fromKeys L H secrets domain attest = .ok k) :
    k.toSecrets = secrets ∧ k.Linked L := by
  unfold Keys.fromKeys at h
  simp only [ok_iff] at h
  obtain ⟨attestation, -, rfl⟩ := h
  exact ⟨rfl, ⟨rfl, rfl⟩, ⟨rfl, rfl⟩, ⟨rfl, rfl⟩⟩

variable (L) in
def Starts (kind : Kind) (secrets : Secrets) (writes : List Write) : Prop :=
  ∃ k : Keys, k.toSecrets = secrets ∧ k.Linked L
    ∧ ((kind = .bootstrap
        ∧ ∃ info, info.Names L secrets ∧ writes = .bootstrapInfo info :: k.store)
      ∨ (kind ≠ .bootstrap ∧ writes = k.store))

variable (L) in
def Write.Renews (g : Secrets) : Write → Prop
  | .rootCaCert c => c.Links L g.caKey g.caKey
  | .tmpCaCert c => c.Links L g.tmpCaKey g.tmpCaKey
  | .rpcCert c => c.Links L g.rpcKey g.caKey
  | _ => False

variable {d : CertDir} {writes : List Write} {cfg : KmsConfig}

lemma bootstrap_starts {allowed : Result Unit} {fresh : Secrets} {domain : String}
    (h : bootstrap L H cfg allowed fresh domain d = .ok writes) :
    d.rootKeysExist = false ∧ Starts L .bootstrap fresh writes := by
  unfold bootstrap at h
  simp only [ok_iff] at h
  obtain ⟨_, -, _, hguard, _, -, k, hk, attestation, -, rfl⟩ := h
  obtain ⟨rfl, hlinked⟩ := Keys.fromKeys_ok hk
  exact ⟨hguard, k, rfl, hlinked, .inl ⟨rfl, _, ⟨rfl, rfl⟩, rfl⟩⟩

lemma onboard_starts {fetchKeys : String → String → Result KmsKeyResponse} {rpcKey : Bytes}
    {url token domain : String} {secrets : Secrets}
    (h : onboard L H cfg fetchKeys rpcKey url token domain d = .ok (secrets, writes)) :
    d.rootKeysExist = false ∧ Starts L .onboard secrets writes := by
  unfold onboard at h
  simp only [ok_iff, Prod.mk.injEq] at h
  obtain ⟨_, -, _, hguard, k, ⟨response, -, hk⟩, rfl, rfl⟩ := h
  have hlinked : k.Linked L := by
    unfold Keys.fromKeyResponse at hk
    split at hk
    · simp only [ok_iff] at hk
      obtain ⟨_, -, _, -, _, -, hk⟩ := hk
      exact (Keys.fromKeys_ok hk).2
    · cases hk
  exact ⟨hguard, k, rfl, hlinked, .inr ⟨by decide, rfl⟩⟩

lemma bootstrapKeys_starts {allowed : Result Unit} {fresh : Secrets}
    (h : bootstrapKeys L H cfg allowed fresh d = .ok writes) :
    d.rootKeysExist = false ∧ Starts L .autoBootstrap fresh writes := by
  unfold bootstrapKeys at h
  simp only [ok_iff] at h
  obtain ⟨_, -, _, hguard, _, -, k, hk, rfl⟩ := h
  obtain ⟨rfl, hlinked⟩ := Keys.fromKeys_ok hk
  exact ⟨hguard, k, rfl, hlinked, .inr ⟨by decide, rfl⟩⟩

lemma reissue_ok {k : Keys} (h : reissue L H cfg d = .ok k) :
    k.Linked L ∧ d.tmpCaKey = some k.tmpCaKey ∧ d.rootCaKey = some k.caKey
      ∧ d.rpcKey = some k.rpcKey ∧ d.k256Key = some k.k256Key := by
  unfold reissue at h
  simp only [ok_iff] at h
  obtain ⟨tmp, htmp, ca, hca, rpc, hrpc, k256, hk256, domain, -, hk⟩ := h
  obtain ⟨hsecrets, hlinked⟩ := Keys.fromKeys_ok hk
  rw [htmp, hca, hrpc, hk256, hsecrets]
  exact ⟨hlinked, rfl, rfl, rfl, rfl⟩

variable {x : Write}

lemma renewCaCertIfExpiring_ok {current : Option Certificate}
    {description path : String} {now : Nat}
    (h : renewCaCertIfExpiring current x description path now = .ok writes) :
    ∀ y ∈ writes, y = x := by
  unfold renewCaCertIfExpiring at h
  simp only [bind_eq_ok] at h
  obtain ⟨cert, -, h⟩ := h
  split at h
  · cases h
    exact fun y hy => List.mem_singleton.mp hy
  · cases h
    intro y hy
    cases hy

/-- Every write of `update_certs` reissues a certificate of the keys on
disk, so it has none while the ECDSA key is missing. -/
lemma updateCerts_renews {now : Nat} (hx : x ∈ (updateCerts L H cfg now d).1) :
    ∃ g : Secrets, x.Renews L g ∧ d.tmpCaKey = some g.tmpCaKey ∧ d.rootCaKey = some g.caKey
      ∧ d.rpcKey = some g.rpcKey ∧ d.k256Key = some g.k256Key := by
  unfold updateCerts at hx
  split at hx
  · cases hx
  next k hk =>
    obtain ⟨hlinked, hdisk⟩ := reissue_ok hk
    refine ⟨k.toSecrets, ?_, hdisk⟩
    split at hx
    · cases hx
    next root hroot =>
      have hroots : ∀ y ∈ root, y.Renews L k.toSecrets := by
        intro y hy
        rw [renewCaCertIfExpiring_ok hroot y hy]
        exact hlinked.caCert
      split at hx
      · exact hroots x hx
      next tmp htmp =>
        simp only [List.mem_append, List.mem_singleton] at hx
        rcases hx with (hx | hx) | rfl
        · exact hroots x hx
        · rw [renewCaCertIfExpiring_ok htmp x hx]
          exact hlinked.tmpCaCert
        · exact hlinked.rpcCert

-- == a step

variable (L) in
inductive World.Takes (w : World) : World → Prop where
  | idle : Takes w w
  | begins {kind : Kind} {secrets : Secrets} {writes : List Write} (hidle : w.running = [])
      (hguard : w.disk.rootKeysExist = false) (hstarts : Starts L kind secrets writes) :
      Takes w (w.begin kind secrets writes)
  | renews {H : Host} {cfg : KmsConfig} {now : Nat} (hidle : w.running = []) :
      Takes w { w with running := (updateCerts L H cfg now w.disk).1 }
  | writes {x : Write} {rest : List Write} (hnext : w.running = x :: rest) :
      Takes w { w with disk := x.apply w.disk, running := rest }
  | stops : Takes w { w with running := [] }

lemma World.step_takes (w : World) (e : Event) : w.Takes L (w.step L e) := by
  cases e with
  | write =>
    unfold World.step
    cases hnext : w.running with
    | nil => exact .idle
    | cons x rest => exact .writes hnext
  | stop => exact .stops
  | updateCerts H cfg now =>
    unfold World.step
    dsimp only
    split
    · exact .idle
    next hidle => exact .renews (not_not.mp hidle)
  | bootstrap H cfg selfAllowed fresh domain =>
    unfold World.step
    dsimp only
    split
    · exact .idle
    next hidle =>
      split
      next hok =>
        obtain ⟨hguard, hstarts⟩ := bootstrap_starts hok
        exact .begins (not_not.mp hidle) hguard hstarts
      · exact .idle
  | onboard H cfg fetchKeys rpcKey sourceUrl sourceToken domain =>
    unfold World.step
    dsimp only
    split
    · exact .idle
    next hidle =>
      split
      next hok =>
        obtain ⟨hguard, hstarts⟩ := onboard_starts hok
        exact .begins (not_not.mp hidle) hguard hstarts
      · exact .idle
  | autoBootstrap H cfg selfAllowed fresh =>
    unfold World.step
    dsimp only
    split
    · exact .idle
    next hidle =>
      split
      next hok =>
        obtain ⟨hguard, hstarts⟩ := bootstrapKeys_starts hok
        exact .begins (not_not.mp hidle) hguard hstarts
      · exact .idle

-- == phases

lemma Starts.k256_last {kind : Kind} {g : Secrets} (h : Starts L kind g writes) :
    ∃ init, writes = init ++ [.k256Key g.k256Key] ∧ ∀ x ∈ init, ∀ key, x ≠ .k256Key key := by
  obtain ⟨k, rfl, -, hwrites⟩ := h
  rcases hwrites with ⟨-, info, -, rfl⟩ | ⟨-, rfl⟩
  · refine ⟨.bootstrapInfo info :: (k.storeCerts ++ [.rpcDomain k.rpcDomain]
      ++ [.tmpCaKey k.tmpCaKey, .rpcKey k.rpcKey, .rootCaKey k.caKey]), rfl, ?_⟩
    simp [Keys.storeCerts]
  · refine ⟨k.storeCerts ++ [.rpcDomain k.rpcDomain]
      ++ [.tmpCaKey k.tmpCaKey, .rpcKey k.rpcKey, .rootCaKey k.caKey], rfl, ?_⟩
    simp [Keys.storeCerts]

lemma Write.apply_k256Key (h : ∀ key, x ≠ .k256Key key) :
    (x.apply d).k256Key = d.k256Key := by
  cases x with
  | k256Key key => exact absurd rfl (h key)
  | _ => rfl

variable (L) in
def Attempt.LeavesInfo (o : Attempt) (d : CertDir) : Prop :=
  (o.kind = .bootstrap ∧ ∃ info, d.bootstrapInfo = some info ∧ info.Names L o.secrets)
    ∨ (o.kind ≠ .bootstrap ∧ d.bootstrapInfo = o.foundInfo)

lemma Keys.store_apply (k : Keys) (d : CertDir) :
    k.store.foldl Write.apply d = {
      tmpCaCert := some k.tmpCaCert
      tmpCaKey := some k.tmpCaKey
      rootCaCert := some k.caCert
      rootCaKey := some k.caKey
      rpcCert := some k.rpcCert
      rpcKey := some k.rpcKey
      rpcDomain := some k.rpcDomain
      k256Key := some k.k256Key
      bootstrapInfo := d.bootstrapInfo } := rfl

lemma Keys.Linked.oneGeneration {k : Keys} (h : k.Linked L) (d : CertDir) :
    OneGeneration L k.toSecrets (k.store.foldl Write.apply d) := by
  rw [k.store_apply]
  exact ⟨rfl, rfl, rfl, rfl, ⟨_, rfl, h.caCert⟩, ⟨_, rfl, h.tmpCaCert⟩, ⟨_, rfl, h.rpcCert⟩⟩

variable {o : Attempt}

lemma Starts.finished (h : Starts L o.kind o.secrets writes)
    {before : CertDir} (hfound : before.bootstrapInfo = o.foundInfo) :
    OneGeneration L o.secrets (writes.foldl Write.apply before)
      ∧ o.LeavesInfo L (writes.foldl Write.apply before) := by
  obtain ⟨k, hsecrets, hlinked, hwrites⟩ := h
  have hgeneration := hsecrets ▸ hlinked.oneGeneration
  rcases hwrites with ⟨hkind, info, hnames, rfl⟩ | ⟨hkind, rfl⟩
  · rw [List.foldl_cons]
    refine ⟨hgeneration _, .inl ⟨hkind, info, ?_, hnames⟩⟩
    rw [k.store_apply]
    rfl
  · refine ⟨hgeneration _, .inr ⟨hkind, ?_⟩⟩
    rw [k.store_apply]
    exact hfound

variable (L) in
structure World.Stored (o : Attempt) (w : World) : Prop where
  origin : w.origin = some o
  generation : OneGeneration L o.secrets w.disk
  renewing : ∀ x ∈ w.running, x.Renews L o.secrets
  info : o.LeavesInfo L w.disk

variable (L) in
inductive World.Phase (w : World) : Prop where
  | waiting (hkey : w.disk.k256Key = none) (hidle : w.running = [])
  | storing {o : Attempt} (before : CertDir) (done : List Write)
      (hkey : w.disk.k256Key = none) (horigin : w.origin = some o)
      (hstarts : Starts L o.kind o.secrets (done ++ w.running))
      (hdisk : w.disk = done.foldl Write.apply before)
      (hfound : before.bootstrapInfo = o.foundInfo)
  | stored {o : Attempt} (hstored : w.Stored L o)

lemma Write.Renews.keeps (hx : x.Renews L o.secrets)
    (hgen : OneGeneration L o.secrets d) (hinfo : o.LeavesInfo L d) :
    OneGeneration L o.secrets (x.apply d) ∧ o.LeavesInfo L (x.apply d) := by
  obtain ⟨hca, hk256, htmp, hrpc, hcaCert, htmpCert, hrpcCert⟩ := hgen
  cases x with
  | rootCaCert c =>
    exact ⟨⟨hca, hk256, htmp, hrpc, ⟨c, rfl, hx⟩, htmpCert, hrpcCert⟩, hinfo⟩
  | tmpCaCert c =>
    exact ⟨⟨hca, hk256, htmp, hrpc, hcaCert, ⟨c, rfl, hx⟩, hrpcCert⟩, hinfo⟩
  | rpcCert c =>
    exact ⟨⟨hca, hk256, htmp, hrpc, hcaCert, htmpCert, ⟨c, rfl, hx⟩⟩, hinfo⟩
  | tmpCaKey _ => exact absurd hx id
  | rootCaKey _ => exact absurd hx id
  | rpcKey _ => exact absurd hx id
  | rpcDomain _ => exact absurd hx id
  | k256Key _ => exact absurd hx id
  | bootstrapInfo _ => exact absurd hx id

lemma World.Takes.stored {w w' : World} (h : w.Takes L w')
    (hs : w.Stored L o) : w'.Stored L o := by
  obtain ⟨horigin, hgen, hrenewing, hinfo⟩ := hs
  cases h with
  | idle => exact ⟨horigin, hgen, hrenewing, hinfo⟩
  | begins hidle hguard hstarts =>
    -- both root keys are there
    unfold CertDir.rootKeysExist at hguard
    rw [hgen.rootCaKey, hgen.k256Key] at hguard
    cases hguard
  | renews hidle =>
    refine ⟨horigin, hgen, fun x hx => ?_, hinfo⟩
    obtain ⟨g, hx, htmp, hca, hrpc, hk256⟩ := updateCerts_renews hx
    have hsame : g = o.secrets := by
      obtain ⟨tmpCaKey, caKey, rpcKey, k256Key⟩ := g
      rw [hgen.tmpCaKey] at htmp
      rw [hgen.rootCaKey] at hca
      rw [hgen.rpcKey] at hrpc
      rw [hgen.k256Key] at hk256
      cases htmp
      cases hca
      cases hrpc
      cases hk256
      rfl
    exact hsame ▸ hx
  | writes hnext =>
    have hx := hrenewing _ (hnext ▸ List.mem_cons_self)
    obtain ⟨hgen', hinfo'⟩ := hx.keeps hgen hinfo
    exact ⟨horigin, hgen', fun y hy => hrenewing y (hnext ▸ List.mem_cons_of_mem _ hy), hinfo'⟩
  | stops => exact ⟨horigin, hgen, (fun x hx => nomatch hx), hinfo⟩

lemma updateCerts_nil {now : Nat}
    (hkey : d.k256Key = none) : (updateCerts L H cfg now d).1 = [] := by
  rw [List.eq_nil_iff_forall_not_mem]
  intro x hx
  obtain ⟨g, -, -, -, -, hk256⟩ := updateCerts_renews hx
  rw [hkey] at hk256
  cases hk256

lemma World.Takes.phase {w w' : World} (h : w.Takes L w') (hw : w.Phase L) : w'.Phase L := by
  cases hw with
  | stored hstored => exact .stored (h.stored hstored)
  | waiting hkey hidle =>
    cases h with
    | idle => exact .waiting hkey hidle
    | begins _ hguard hstarts =>
      exact .storing w.disk [] hkey rfl hstarts rfl rfl
    | renews _ => exact .waiting hkey (updateCerts_nil hkey)
    | writes hnext =>
      rw [hidle] at hnext
      cases hnext
    | stops => exact .waiting hkey rfl
  | storing before done hkey horigin hstarts hdisk hfound =>
    cases h with
    | idle => exact .storing before done hkey horigin hstarts hdisk hfound
    | begins _ hguard hstarts' =>
      exact .storing w.disk [] hkey rfl hstarts' rfl rfl
    | renews _ => exact .waiting hkey (updateCerts_nil hkey)
    | stops => exact .waiting hkey rfl
    | @writes x rest hnext =>
      rw [hnext] at hstarts
      have happly : x.apply w.disk = (done ++ [x]).foldl Write.apply before := by
        rw [List.foldl_append, ← hdisk]
        rfl
      have hsplit : done ++ x :: rest = (done ++ [x]) ++ rest := by simp
      cases rest with
      | nil =>
        -- the last write: the attempt is complete
        obtain ⟨hgen, hinfo⟩ := hstarts.finished hfound
        rw [← happly] at hgen hinfo
        exact .stored ⟨horigin, hgen, (fun y hy => nomatch hy), hinfo⟩
      | cons y rest =>
        -- not the last one, so not the ECDSA key
        obtain ⟨init, hinit, hnot⟩ := hstarts.k256_last
        have hmem : x ∈ init := by
          have hlast := congrArg List.dropLast hinit
          rw [List.dropLast_concat] at hlast
          rw [← hlast]
          simp [List.dropLast_append_of_ne_nil]
        have hnone : (x.apply w.disk).k256Key = none := by
          rw [Write.apply_k256Key (hnot x hmem), hkey]
        exact .storing before (done ++ [x]) hnone horigin (hsplit ▸ hstarts) happly hfound

-- == runs

lemma World.run_phase (events : List Event) : (World.run L {} events).Phase L := by
  have hkeeps : ∀ (w : World), w.Phase L → (w.run L events).Phase L := by
    induction events with
    | nil => exact fun w hw => hw
    | cons e events ih => exact fun w hw => ih _ ((w.step_takes e).phase hw)
  exact hkeeps {} (.waiting rfl rfl)

lemma World.Stored.run {w : World} (hw : w.Stored L o) (events : List Event) :
    (w.run L events).Stored L o := by
  induction events generalizing w with
  | nil => exact hw
  | cons e events ih => exact ih ((w.step_takes e).stored hw)

lemma Attempt.LeavesInfo.names_iff (h : o.LeavesInfo L d) :
    d.InfoNames L o.secrets ↔ o.Clean L := by
  unfold CertDir.InfoNames Attempt.Clean
  rcases h with ⟨hkind, info, hinfo, hnames⟩ | ⟨hkind, hinfo⟩
  · refine ⟨fun _ => .inl hkind, fun _ i hi => ?_⟩
    rw [hinfo] at hi
    cases hi
    exact hnames
  · rw [hinfo]
    exact ⟨.inr, fun hclean => hclean.resolve_left hkind⟩

/-- Whenever both root keys are on disk, no later step changes either,
and every other file belongs to them, the bootstrap info exactly when the
attempt that stored them was clean. -/
theorem root_keys_one_generation_iff {events : List Event} {w : World}
    (hrun : World.run L {} events = w) (hexist : w.disk.rootKeysExist = true) :
    (∀ later, (w.run L later).disk.rootCaKey = w.disk.rootCaKey
        ∧ (w.run L later).disk.k256Key = w.disk.k256Key)
      ∧ ∃ o, w.origin = some o ∧ OneGeneration L o.secrets w.disk
        ∧ (w.disk.InfoNames L o.secrets ↔ o.Clean L) := by
  have hkey : w.disk.k256Key ≠ none := by
    intro hnone
    unfold CertDir.rootKeysExist at hexist
    rw [hnone, Bool.and_comm] at hexist
    cases hexist
  have hphase : w.Phase L := hrun ▸ World.run_phase events
  cases hphase with
  | waiting hnone _ => exact absurd hnone hkey
  | storing _ _ hnone => exact absurd hnone hkey
  | @stored o hstored =>
    constructor
    · intro later
      have hlater := (hstored.run later).generation
      rw [hlater.rootCaKey, hlater.k256Key, hstored.generation.rootCaKey,
        hstored.generation.k256Key]
      exact ⟨rfl, rfl⟩
    · exact ⟨o, hstored.origin, hstored.generation, hstored.info.names_iff⟩

-- == a run, and a relic

def sampleLibrary : KeyLibrary where
  publicKeyDer := id
  verifyingKey := id
  keyPairFromPem pem := .ok (utf8 pem)
  signingKeyFromSlice := .ok

def sampleHost : Host where
  appAttest _ := .ok [0xaa]
  msgpack := sampleMsgpack
  notAfter := 4000000000

def sampleConfig : KmsConfig := ⟨false, "", "/etc/kms/certs"⟩

def sampleSecrets : Secrets := ⟨[1], [2], [3], [4]⟩

def sampleSource (_url _token : String) : Result KmsKeyResponse :=
  .ok ⟨"t", [⟨"r", [0x6b]⟩]⟩

def sampleRun : List Event :=
  .bootstrap sampleHost sampleConfig (.ok ()) sampleSecrets "kms.example"
    :: (List.replicate 9 .write
      ++ .updateCerts { sampleHost with notAfter := 5000000000 } sampleConfig 3999999999
        :: List.replicate 2 .write)

/-- After a bootstrap and a renewal of the certificates the keys stay, whatever
comes later. -/
theorem stored_keys_stay :
    (∀ later, ((World.run sampleLibrary {} sampleRun).run sampleLibrary later).disk.rootCaKey
          = some [2]
        ∧ ((World.run sampleLibrary {} sampleRun).run sampleLibrary later).disk.k256Key
          = some [4])
      ∧ (World.run sampleLibrary {} sampleRun).disk.InfoNames sampleLibrary sampleSecrets := by
  have hfacts : (World.run sampleLibrary {} sampleRun).disk.rootKeysExist = true
      ∧ (World.run sampleLibrary {} sampleRun).disk.rootCaKey = some [2]
      ∧ (World.run sampleLibrary {} sampleRun).disk.k256Key = some [4]
      ∧ (World.run sampleLibrary {} sampleRun).origin
        = some ⟨.bootstrap, sampleSecrets, none⟩ := by
    decide +kernel
  generalize hw : World.run sampleLibrary {} sampleRun = w at hfacts ⊢
  obtain ⟨hexist, hca, hk256, horigin⟩ := hfacts
  obtain ⟨hstay, o, ho, -, hinfo⟩ := root_keys_one_generation_iff hw hexist
  rw [horigin] at ho
  cases ho
  rw [hca, hk256] at hstay
  exact ⟨hstay, hinfo.mpr (.inl rfl)⟩

/-- A bootstrap dies after its first write and the KMS is then onboarded
from another one: both root keys are the other KMS's, and the bootstrap
info is still the one of the keys that were never stored. -/
theorem interrupted_bootstrap_leaves_info :
    let w := World.run sampleLibrary {}
      (.bootstrap sampleHost sampleConfig (.ok ()) sampleSecrets "kms.example"
        :: .write :: .stop
        :: .onboard sampleHost sampleConfig sampleSource [7] "https://kms" "" "kms.example"
        :: List.replicate 8 .write)
    w.disk.rootKeysExist = true ∧ w.disk.rootCaKey = some (utf8 "r")
      ∧ w.disk.k256Key = some [0x6b]
      ∧ w.disk.bootstrapInfo = some ⟨[2], [4], [0xaa]⟩ := by
  decide +kernel

end Dstack.Kms.Onboard
