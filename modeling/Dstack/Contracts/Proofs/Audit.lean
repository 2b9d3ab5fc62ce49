/-
What an auditor learns from the policy events.

Folding the `PolicyChanged` events of a contract, the last one for a
policy and value deciding, should give the policy the contract enforces.
For the key management service it does. For an application it does but
for three flags that the initializers set and do not announce: what the
fold says of such a flag is right exactly if the flag was created off or
has been set since.

A `Cell` is one thing a fold is about; every call changes at most the
cells its own events name, and as they say.
-/
import Dstack.Contracts.DstackKms

namespace Dstack.Contracts

open Lib

lemma inj_of_nodup_map {α β : Type} {f : α → β} {l : List α}
    (hmem : ∀ a, a ∈ l) (h : (l.map f).Nodup) {a b : α} : f a = f b ↔ a = b :=
  ⟨fun he => List.inj_on_of_nodup_map h (hmem a) (hmem b) he, fun he => by rw [he]⟩

namespace DstackApp

-- == application

def Policy.all : List Policy :=
  [.composeHash, .device, .allowAnyDevice, .requireTcbUpToDate, .upgradesDisabled,
    .implementationUpgrade]

lemma Policy.topic_inj {p q : Policy} : p.topic = q.topic ↔ p = q :=
  inj_of_nodup_map (l := Policy.all) (fun p => by cases p <;> decide) (by decide +kernel)

/-- What an auditor wants to know of an application. -/
inductive Cell where
  | composeHash (composeHash : Bytes32)
  | device (deviceId : Bytes32)
  | allowAnyDevice
  | requireTcbUpToDate
  | upgradesDisabled
  deriving DecidableEq

/-- The policy and the value that the events about a cell name. -/
def Cell.key : Cell → Bytes32 × Bytes32
  | .composeHash v => (Policy.composeHash.topic, v)
  | .device v => (Policy.device.topic, v)
  | .allowAnyDevice => (Policy.allowAnyDevice.topic, 0)
  | .requireTcbUpToDate => (Policy.requireTcbUpToDate.topic, 0)
  | .upgradesDisabled => (Policy.upgradesDisabled.topic, 0)

lemma Cell.key_inj {c d : Cell} : c.key = d.key ↔ c = d := by
  cases c <;> cases d <;> simp [Cell.key, Policy.topic_inj]

/-- What the contract enforces. -/
def Cell.view (s : DstackApp) : Cell → Bool
  | .composeHash v => s.allowedComposeHashes v
  | .device v => s.allowedDeviceIds v
  | .allowAnyDevice => s.allowAnyDevice
  | .requireTcbUpToDate => s.requireTcbUpToDate
  | .upgradesDisabled => s.upgradesDisabled

/-- The contract with a cell set. -/
def Cell.set (s : DstackApp) (b : Bool) : Cell → DstackApp
  | .composeHash v => { s with allowedComposeHashes := setAt s.allowedComposeHashes v b }
  | .device v => { s with allowedDeviceIds := setAt s.allowedDeviceIds v b }
  | .allowAnyDevice => { s with allowAnyDevice := b }
  | .requireTcbUpToDate => { s with requireTcbUpToDate := b }
  | .upgradesDisabled => { s with upgradesDisabled := b }

lemma Cell.view_set (s : DstackApp) (b : Bool) (c d : Cell) :
    c.view (d.set s b) = if d = c then b else c.view s := by
  cases d <;> cases c <;> simp [Cell.set, Cell.view, setAt]

/-- What a policy event says, by the cell it is about. -/
def Event.entry : Event → Option ((Bytes32 × Bytes32) × Bool)
  | .policyChanged _ policy value enabled => some ((policy, value), enabled)
  | _ => none

/-- The events of a call say how it changed each cell. -/
structure Announced (s s' : DstackApp) (es : List Event) : Prop where
  initialized : s'.initialized = s.initialized
  tells : ∀ c : Cell, Tells Event.entry (Cell.view · c) c.key s s' es

variable {sender : Address} {s s' : DstackApp} {es : List Event}

lemma Announced.trans {s₁ s₂ s₃ : DstackApp} {es es' : List Event}
    (h₁ : Announced s₁ s₂ es) (h₂ : Announced s₂ s₃ es') : Announced s₁ s₃ (es ++ es') :=
  ⟨h₂.initialized.trans h₁.initialized, fun c => (h₁.tells c).trans (h₂.tells c)⟩

lemma Announced.set (d : Cell) {b : Bool}
    (hes : es.filterMap Event.entry = [(d.key, b)]) : Announced s (d.set s b) es :=
  ⟨by cases d <;> rfl, fun c => Tells.single hes
    ((c.view_set s b d).trans (if_congr Cell.key_inj.symm rfl rfl))⟩

lemma Announced.silent (hinit : s'.initialized = s.initialized)
    (hview : ∀ c : Cell, c.view s' = c.view s)
    (hes : ∀ c : Cell, c.key ∉ (es.filterMap Event.entry).map Prod.fst) :
    Announced s s' es :=
  ⟨hinit, fun c => Tells.silent (hview c) (hes c)⟩

lemma Announced.ownable (s : DstackApp) (o : Ownable) (es : List BaseEvent) :
    Announced s { s with ownable := o } (es.map .base) := by
  refine .silent rfl (fun c => by cases c <;> rfl) fun c => ?_
  simp [List.filterMap_map, Function.comp_def, Event.entry]

lemma byOwner_ok {change : DstackApp × List Event}
    (h : byOwner sender s change = .ok (s', es)) : change = (s', es) := by
  unfold byOwner at h
  simp only [ok_iff] at h
  obtain ⟨_, -, h⟩ := h
  exact h

lemma upgradeTo_announced {newImplementation : Address} {proxiable : Bool}
    (h : upgradeTo sender newImplementation proxiable s = .ok (s', es)) :
    Announced s s' es := by
  unfold upgradeTo authorizeUpgrade at h
  simp only [ok_iff, Prod.mk.injEq] at h
  obtain ⟨_, ⟨_, -, _, -, rfl⟩, _, -, rfl, rfl⟩ := h
  refine .silent rfl (fun c => by cases c <;> rfl) fun c => ?_
  cases c <;> simp [emitPolicy, Event.entry, Cell.key, Policy.topic_inj]

/-- After its creation, a contract changes its policy as its events say,
call by call. -/
lemma call_announced {m : Call} (hs : s.initialized = true)
    (h : call sender m s = .ok (s', es)) : Announced s s' es := by
  induction m generalizing s s' es with
  | initializeContract a =>
    simp only [call, initializeContract, ok_iff, hs] at h
    obtain ⟨_, h, -⟩ := h
    cases h
  | upgradeTo newImplementation proxiable =>
    exact upgradeTo_announced h
  | upgradeToAndCall newImplementation proxiable next ih =>
    simp only [call, ok_iff, Prod.mk.injEq] at h
    obtain ⟨⟨s₁, es₁⟩, h₁, ⟨s₂, es₂⟩, h₂, rfl, rfl⟩ := h
    have hupgrade := upgradeTo_announced h₁
    exact hupgrade.trans (ih (hupgrade.initialized.trans hs) h₂)
  | addComposeHash composeHash =>
    simp only [call, addComposeHash, ok_iff, Prod.mk.injEq] at h
    obtain ⟨_, -, _, -, rfl, rfl⟩ := h
    exact .set (.composeHash composeHash) rfl
  | removeComposeHash composeHash =>
    cases byOwner_ok h
    exact .set (.composeHash composeHash) rfl
  | setAllowAnyDevice allowAnyDevice =>
    cases byOwner_ok h
    exact .set .allowAnyDevice rfl
  | setRequireTcbUpToDate requireUpToDate =>
    cases byOwner_ok h
    exact .set .requireTcbUpToDate rfl
  | addDevice deviceId =>
    simp only [call, addDevice, ok_iff, Prod.mk.injEq] at h
    obtain ⟨_, -, _, -, rfl, rfl⟩ := h
    exact .set (.device deviceId) rfl
  | removeDevice deviceId =>
    cases byOwner_ok h
    exact .set (.device deviceId) rfl
  | disableUpgrades =>
    cases byOwner_ok h
    exact .set .upgradesDisabled rfl
  | ownership m =>
    simp only [call, ok_iff, Prod.mk.injEq] at h
    obtain ⟨⟨o, base⟩, -, rfl, rfl⟩ := h
    exact .ownable s o base
  | query =>
    simp only [call, pure_eq_ok, Prod.mk.injEq] at h
    obtain ⟨rfl, rfl⟩ := h
    exact ⟨rfl, fun c => rfl⟩

/-- The contract after the writes of an initializer that emit nothing. -/
def Init.flags (a : Init) (s : DstackApp) : DstackApp :=
  { initialTcb a.requireTcbUpToDate { s with initialized := true } with
    upgradesDisabled := a.disableUpgrades
    allowAnyDevice := a.allowAnyDevice }

end DstackApp

namespace DstackKms

-- == key management

def Policy.all : List Policy :=
  [.kmsInfo, .gatewayAppId, .registeredApp, .appImplementation, .kmsAggregatedMr,
    .kmsDevice, .osImage, .implementationUpgrade]

lemma Policy.topic_inj {p q : Policy} : p.topic = q.topic ↔ p = q :=
  inj_of_nodup_map (l := Policy.all) (fun p => by cases p <;> decide) (by decide +kernel)

/-- What the service allows. -/
inductive Cell where
  | registeredApp (appId : Address)
  | kmsAggregatedMr (mrAggregated : Bytes32)
  | kmsDevice (deviceId : Bytes32)
  | osImage (osImageHash : Bytes32)
  deriving DecidableEq

/-- The policy and the value that the events about a cell name. -/
def Cell.key : Cell → Bytes32 × Bytes32
  | .registeredApp a => (Policy.registeredApp.topic, addressWord a)
  | .kmsAggregatedMr v => (Policy.kmsAggregatedMr.topic, v)
  | .kmsDevice v => (Policy.kmsDevice.topic, v)
  | .osImage v => (Policy.osImage.topic, v)

lemma Cell.key_inj {c d : Cell} : c.key = d.key ↔ c = d := by
  cases c <;> cases d <;> simp [Cell.key, Policy.topic_inj, addressWord_inj]

/-- What the contract enforces. -/
def Cell.view (s : DstackKms) : Cell → Bool
  | .registeredApp a => s.registeredApps a
  | .kmsAggregatedMr v => s.kmsAllowedAggregatedMrs v
  | .kmsDevice v => s.kmsAllowedDeviceIds v
  | .osImage v => s.allowedOsImages v

/-- The contract with a cell set. -/
def Cell.set (s : DstackKms) (b : Bool) : Cell → DstackKms
  | .registeredApp a => { s with registeredApps := setAt s.registeredApps a b }
  | .kmsAggregatedMr v =>
    { s with kmsAllowedAggregatedMrs := setAt s.kmsAllowedAggregatedMrs v b }
  | .kmsDevice v => { s with kmsAllowedDeviceIds := setAt s.kmsAllowedDeviceIds v b }
  | .osImage v => { s with allowedOsImages := setAt s.allowedOsImages v b }

lemma Cell.view_set (s : DstackKms) (b : Bool) (c d : Cell) :
    c.view (d.set s b) = if d = c then b else c.view s := by
  cases d <;> cases c <;> simp [Cell.set, Cell.view, setAt]

/-- What the service is set to; an event tells the new value. -/
inductive Setting where
  | gatewayAppId
  | appImplementation
  deriving DecidableEq

def Setting.policy : Setting → Policy
  | .gatewayAppId => .gatewayAppId
  | .appImplementation => .appImplementation

lemma Setting.policy_inj {c d : Setting} : c.policy = d.policy ↔ c = d := by
  cases c <;> cases d <;> decide

/-- The setting as the events write it. -/
def Setting.view (s : DstackKms) : Setting → Bytes32
  | .gatewayAppId => keccak256 (utf8 s.gatewayAppId)
  | .appImplementation => addressWord s.appImplementation

/-- What a policy event says, by the cell it is about. -/
def Event.permission : Event → Option ((Bytes32 × Bytes32) × Bool)
  | .policyChanged _ policy value enabled => some ((policy, value), enabled)
  | _ => none

/-- The value a policy event tells, by its policy alone. -/
def Event.value : Event → Option (Bytes32 × Bytes32)
  | .policyChanged _ policy value _ => some (policy, value)
  | _ => none

/-- The events of a call say how it changed each cell and setting. -/
structure Announced (s s' : DstackKms) (es : List Event) : Prop where
  initialized : s'.initialized = s.initialized
  permissions : ∀ c : Cell, Tells Event.permission (Cell.view · c) c.key s s' es
  settings : ∀ c : Setting, Tells Event.value (Setting.view · c) c.policy.topic s s' es

variable {sender : Address} {s s' : DstackKms} {es : List Event}

lemma Announced.refl (s : DstackKms) : Announced s s [] :=
  ⟨rfl, fun _ => rfl, fun _ => rfl⟩

lemma Announced.trans {s₁ s₂ s₃ : DstackKms} {es es' : List Event}
    (h₁ : Announced s₁ s₂ es) (h₂ : Announced s₂ s₃ es') : Announced s₁ s₃ (es ++ es') :=
  ⟨h₂.initialized.trans h₁.initialized,
    fun c => (h₁.permissions c).trans (h₂.permissions c),
    fun c => (h₁.settings c).trans (h₂.settings c)⟩

lemma Announced.set (d : Cell) {b : Bool}
    (hes : es.filterMap Event.permission = [(d.key, b)])
    (hvalue : es.filterMap Event.value = [d.key]) : Announced s (d.set s b) es := by
  refine ⟨by cases d <;> rfl, fun c => ?_, fun c => ?_⟩
  · exact Tells.single hes ((c.view_set s b d).trans (if_congr Cell.key_inj.symm rfl rfl))
  · refine Tells.silent (by cases d <;> cases c <;> rfl) ?_
    rw [hvalue]
    cases c <;> cases d <;> simp [Cell.key, Setting.policy, Policy.topic_inj]

lemma Announced.setting (d : Setting) {w : Bytes32}
    (hinit : s'.initialized = s.initialized)
    (hes : es.filterMap Event.permission = [((d.policy.topic, w), true)])
    (hvalue : es.filterMap Event.value = [(d.policy.topic, w)])
    (hview : ∀ c : Cell, c.view s' = c.view s)
    (hsetting : ∀ c : Setting, c.view s' = if d = c then w else c.view s) :
    Announced s s' es := by
  refine ⟨hinit, fun c => ?_, fun c => ?_⟩
  · refine Tells.silent (hview c) ?_
    rw [hes]
    cases c <;> cases d <;> simp [Cell.key, Setting.policy, Policy.topic_inj]
  · exact Tells.single hvalue ((hsetting c).trans
      (if_congr (Policy.topic_inj.trans Setting.policy_inj).symm rfl rfl))

lemma Announced.silent (hinit : s'.initialized = s.initialized)
    (hview : ∀ c : Cell, c.view s' = c.view s)
    (hsetting : ∀ c : Setting, c.view s' = c.view s)
    (hes : ∀ c : Cell, c.key ∉ (es.filterMap Event.permission).map Prod.fst)
    (hvalue : ∀ c : Setting,
      c.policy.topic ∉ (es.filterMap Event.value).map Prod.fst) : Announced s s' es :=
  ⟨hinit, fun c => Tells.silent (hview c) (hes c),
    fun c => Tells.silent (hsetting c) (hvalue c)⟩

lemma Announced.ownable (s : DstackKms) (o : Ownable) (es : List BaseEvent) :
    Announced s { s with ownable := o } (es.map .base) := by
  refine .silent rfl (fun c => by cases c <;> rfl) (fun c => by cases c <;> rfl)
    (fun c => ?_) fun c => ?_
  · simp [List.filterMap_map, Function.comp_def, Event.permission]
  · simp [List.filterMap_map, Function.comp_def, Event.value]

/-- An event for a policy that no cell and no setting is about. -/
lemma Announced.other {p : Policy} {w : Bytes32} (hp : p = .implementationUpgrade ∨ p = .kmsInfo)
    (hes : es.filterMap Event.permission = [((p.topic, w), true)])
    (hvalue : es.filterMap Event.value = [(p.topic, w)]) (hinit : s'.initialized = s.initialized)
    (hview : ∀ c : Cell, c.view s' = c.view s) (hsetting : ∀ c : Setting, c.view s' = c.view s) :
    Announced s s' es := by
  refine .silent hinit hview hsetting (fun c => ?_) fun c => ?_
  · rw [hes]
    rcases hp with rfl | rfl <;> cases c <;> simp [Cell.key, Policy.topic_inj]
  · rw [hvalue]
    rcases hp with rfl | rfl <;> cases c <;> simp [Setting.policy, Policy.topic_inj]

lemma byOwner_ok {change : DstackKms × List Event}
    (h : byOwner sender s change = .ok (s', es)) : change = (s', es) := by
  unfold byOwner at h
  simp only [ok_iff] at h
  obtain ⟨_, -, h⟩ := h
  exact h

lemma upgradeTo_announced {newImplementation : Address} {proxiable : Bool}
    (h : upgradeTo sender newImplementation proxiable s = .ok (s', es)) :
    Announced s s' es := by
  unfold upgradeTo at h
  simp only [ok_iff, Prod.mk.injEq] at h
  obtain ⟨_, -, _, -, rfl, rfl⟩ := h
  exact .other (.inl rfl) rfl rfl rfl (fun c => by cases c <;> rfl) fun c => by cases c <;> rfl

lemma registerApp_announced {appId : Address} (h : registerApp sender appId s = .ok (s', es)) :
    Announced s s' es := by
  unfold registerApp at h
  simp only [ok_iff, Prod.mk.injEq] at h
  obtain ⟨_, -, rfl, rfl⟩ := h
  exact .set (.registeredApp appId) rfl rfl

mutual

/-- After its creation, a contract changes its policy as its events say,
call by call. -/
lemma call_announced {sender : Address} {s s' : DstackKms} {es : List Event} :
    (m : Call) → s.initialized = true → call sender m s = .ok (s', es) →
      Announced s s' es
  | .initializeContract initialOwner appImplementation, hs, h => by
      simp only [call, initializeContract, ok_iff, hs] at h
      obtain ⟨_, h, -⟩ := h
      cases h
  | .upgradeTo newImplementation proxiable, _, h => by
      rw [call] at h
      exact upgradeTo_announced h
  | .upgradeToAndCall newImplementation proxiable next, hs, h => by
      simp only [call, ok_iff, Prod.mk.injEq] at h
      obtain ⟨⟨s₁, es₁⟩, h₁, ⟨s₂, es₂⟩, h₂, rfl, rfl⟩ := h
      have hupgrade := upgradeTo_announced h₁
      exact hupgrade.trans (call_announced next (hupgrade.initialized.trans hs) h₂)
  | .setKmsInfo info, _, h => by
      rw [call] at h
      cases byOwner_ok h
      exact .other (.inr rfl) rfl rfl rfl (fun c => by cases c <;> rfl)
        fun c => by cases c <;> rfl
  | .setKmsQuote quote, _, h => by
      rw [call] at h
      cases byOwner_ok h
      exact ⟨rfl, fun c => by cases c <;> rfl, fun c => by cases c <;> rfl⟩
  | .setKmsEventlog eventlog, _, h => by
      rw [call] at h
      cases byOwner_ok h
      exact ⟨rfl, fun c => by cases c <;> rfl, fun c => by cases c <;> rfl⟩
  | .setGatewayAppId appId, _, h => by
      rw [call] at h
      cases byOwner_ok h
      refine .setting .gatewayAppId rfl rfl rfl (fun c => by cases c <;> rfl) fun c => ?_
      cases c <;> simp [Setting.view]
  | .registerApp appId, _, h => by
      rw [call] at h
      exact registerApp_announced h
  | .setAppImplementation implementation, _, h => by
      simp only [call, setAppImplementation, ok_iff, Prod.mk.injEq] at h
      obtain ⟨_, -, _, -, rfl, rfl⟩ := h
      refine .setting .appImplementation rfl rfl rfl (fun c => by cases c <;> rfl) fun c => ?_
      cases c <;> simp [Setting.view]
  | .deployAndRegisterApp a during appId, hs, h => by
      -- the new application's code ran, and what it called told its changes
      have hduring := callAll_announced (s := s) during hs
      simp only [call, ok_iff, Prod.mk.injEq] at h
      obtain ⟨_, -, _, -, appId, -, ⟨s₂, es₂⟩, h₂, rfl, rfl⟩ := h
      have hfactory : Announced s₂ s₂ [.appDeployedViaFactory appId sender] :=
        ⟨rfl, fun c => rfl, fun c => rfl⟩
      exact (hduring.trans (registerApp_announced h₂)).trans hfactory
  | .addKmsAggregatedMr mrAggregated, _, h => by
      rw [call] at h
      cases byOwner_ok h
      exact .set (.kmsAggregatedMr mrAggregated) rfl rfl
  | .removeKmsAggregatedMr mrAggregated, _, h => by
      rw [call] at h
      cases byOwner_ok h
      exact .set (.kmsAggregatedMr mrAggregated) rfl rfl
  | .addKmsDevice deviceId, _, h => by
      rw [call] at h
      cases byOwner_ok h
      exact .set (.kmsDevice deviceId) rfl rfl
  | .removeKmsDevice deviceId, _, h => by
      rw [call] at h
      cases byOwner_ok h
      exact .set (.kmsDevice deviceId) rfl rfl
  | .addOsImageHash osImageHash, _, h => by
      rw [call] at h
      cases byOwner_ok h
      exact .set (.osImage osImageHash) rfl rfl
  | .removeOsImageHash osImageHash, _, h => by
      rw [call] at h
      cases byOwner_ok h
      exact .set (.osImage osImageHash) rfl rfl
  | .ownership c, _, h => by
      simp only [call, ok_iff, Prod.mk.injEq] at h
      obtain ⟨⟨o, base⟩, -, rfl, rfl⟩ := h
      exact .ownable s o base
  | .query, _, h => by
      simp only [call, pure_eq_ok, Prod.mk.injEq] at h
      obtain ⟨rfl, rfl⟩ := h
      exact .refl _

lemma callAll_announced {s : DstackKms} :
    (calls : Calls) → s.initialized = true →
      Announced s (callAll calls s).1 (callAll calls s).2
  | .nil, _ => .refl s
  | .cons sender c rest, hs => by
      rw [callAll]
      cases hc : call sender c s with
      | error e => exact callAll_announced rest hs
      | ok r =>
        obtain ⟨s₁, es₁⟩ := r
        have hcall := call_announced c hs hc
        exact hcall.trans (callAll_announced rest (hcall.initialized.trans hs))

end

end DstackKms

end Dstack.Contracts
