/-
When a lease is safe.

# The invariant

An acquisition that is neither given back, nor forced, nor run out is the
one whose value is stored, and no two acquisitions of a domain have one
value (`LeaseInv`). The first half says that nobody overwrote or deleted
it, the second that a release reaches the record of its own acquisition
only. Together they leave room for one such acquisition, and a release
that comes late finds another value.

# Where it ends

A value is a second and a node. After a forced release the same node can
take the lease again within the second, and the value that was forced
out of the store is back. `OneASecond` is the condition: no acquisition
in a second in which the domain was taken before. It also holds calls to
the timeout of the lease they meet, because the age of a lease is judged
by who asks.
-/
import Dstack.Gateway.CertLock
import Dstack.Lib.Along

namespace Dstack.Gateway

open Lib

namespace LockRun

-- == the property

/-- An acquisition is neither given back, nor forced, nor run out. -/
def Outstanding (r : LockRun) (n : Nat) (a : Acquisition) : Prop :=
  r.acquisitions[n]? = some a ∧ a.fate = .held ∧ ¬ a.Expired r.clock

/-- No two acquisitions of one domain are outstanding. -/
def AtMostOne (r : LockRun) : Prop :=
  ∀ m n a b, r.Outstanding m a → r.Outstanding n b → a.domain = b.domain → m = n

/-- A release with an acquisition that has run out or was forced leaves
the lock of a later acquirer. -/
def SparesSuccessor (r : LockRun) : Prop :=
  ∀ m n a b fails, r.acquisitions[m]? = some a → a.Expired r.clock ∨ a.fate = .forced →
    m < n → r.acquisitions[n]? = some b → b.domain = a.domain →
    r.store.get? (certLock b.domain) = some (.ok b.lock) →
    (r.step (.release m fails)).store.get? (certLock b.domain) = some (.ok b.lock)

/-- A call that takes the lease does so in a second of its own, and
grants an outstanding lease at least its own time. -/
def OneASecond (r : LockRun) : LockEvent → Prop
  | .acquire domain lockTimeoutSecs now fails =>
    now ≤ r.clock → r.store.held (certLock domain) lockTimeoutSecs now = false → fails = none →
    ∀ a ∈ r.acquisitions, a.domain = domain →
      a.lock.startedAt ≠ now
        ∧ (a.fate = .held → ¬ a.Expired r.clock → a.lockTimeoutSecs ≤ lockTimeoutSecs)
  | _ => True

instance decidableOneASecond (r : LockRun) : ∀ e, Decidable (OneASecond r e)
  | .acquire domain lockTimeoutSecs now fails =>
    inferInstanceAs (Decidable (now ≤ r.clock →
      r.store.held (certLock domain) lockTimeoutSecs now = false → fails = none →
      ∀ a ∈ r.acquisitions, a.domain = domain → a.lock.startedAt ≠ now
        ∧ (a.fate = .held → ¬ a.Expired r.clock → a.lockTimeoutSecs ≤ lockTimeoutSecs)))
  | .tick _ | .release _ _ | .forceRelease _ _ => isTrue trivial

-- == the invariant

/-- What every step keeps that is `OneASecond`. -/
structure LeaseInv (r : LockRun) : Prop where
  unique : ∀ (m n : Nat) (a b : Acquisition), r.acquisitions[m]? = some a →
    r.acquisitions[n]? = some b → a.domain = b.domain → a.lock = b.lock → m = n
  stored : ∀ n a, r.Outstanding n a → r.store.get? (certLock a.domain) = some (.ok a.lock)

variable {r : LockRun}

lemma LeaseInv.atMostOne (h : LeaseInv r) : AtMostOne r := by
  intro m n a b ha hb hdomain
  have hstored := (h.stored m a ha).symm
  rw [hdomain, h.stored n b hb, Option.some.injEq, Except.ok.injEq] at hstored
  exact h.unique m n a b ha.1 hb.1 hdomain hstored

lemma certLock_injective {d d' : String} (h : certLock d = certLock d') : d = d' := by
  unfold certLock at h
  have h' := congrArg String.toList h
  simp only [String.toList_append, List.append_cancel_right_eq, List.append_cancel_left_eq] at h'
  exact String.toList_inj.mp h'

lemma decode_of_get? {s : LockStore} {key : String} {l : CertRenewLock}
    (h : s.get? key = some (.ok l)) : s.decode key = some l := by
  rw [LockStore.decode, h]
  rfl

variable {domain : String}

lemma releaseCertLock_get? {s : LockStore} {fails : Option String}
    {acquired l : CertRenewLock} {key : String} (hne : certLock domain = key → l ≠ acquired)
    (hl : s.get? key = some (.ok l)) :
    (releaseCertLock s fails domain acquired).2.get? key = some (.ok l) := by
  unfold releaseCertLock LockStore.releaseLock
  by_cases hkey : certLock domain = key
  · have hother : (s.decode (certLock domain)).any (· ≠ acquired) = true := by
      rw [hkey, decode_of_get? hl]
      simpa using hne hkey
    rw [if_pos hother]
    exact hl
  · split
    · exact hl
    · cases fails with
      | some e => exact hl
      | none =>
        show (s.erase (certLock domain)).get? key = _
        rw [BTreeMap.get?_erase_of_ne hkey]
        exact hl

lemma releaseCertLock_error {s : LockStore} {fails : Option String} {e : String}
    {acquired : CertRenewLock} (h : (releaseCertLock s fails domain acquired).1 = .error e) :
    (releaseCertLock s fails domain acquired).2 = s := by
  unfold releaseCertLock LockStore.releaseLock at h ⊢
  split
  · rfl
  · rename_i hother
    rw [if_neg hother] at h
    cases fails with
    | some e => rfl
    | none => cases h

lemma settle_store (r : LockRun) (number : Nat) (a : Acquisition)
    (answer : Result Unit × LockStore) : (r.settle number a answer).store = answer.2 := by
  unfold settle
  split <;> rfl

lemma LeaseInv.sparesSuccessor (h : LeaseInv r) : SparesSuccessor r := by
  intro m n a b fails ha _ hlt hb hdomain hstored
  have hne : b.lock ≠ a.lock := by
    intro heq
    have := h.unique m n a b ha hb hdomain.symm heq.symm
    omega
  simp only [step, ha, settle_store]
  exact releaseCertLock_get? (fun _ => hne) hstored

-- == the steps

lemma LeaseInv.tick (h : LeaseInv r) (seconds : Nat) :
    LeaseInv (r.step (.tick seconds)) := by
  refine ⟨h.unique, ?_⟩
  intro n a ⟨ha, hheld, hexpired⟩
  refine h.stored n a ⟨ha, hheld, fun hold => hexpired ?_⟩
  exact Nat.le_trans hold (Nat.le_add_right r.clock seconds)

lemma none_outstanding (h : LeaseInv r) {lockTimeoutSecs now : Nat} (hnow : now ≤ r.clock)
    (hfree : r.store.held (certLock domain) lockTimeoutSecs now = false)
    (hours : ∀ a ∈ r.acquisitions, a.domain = domain → a.fate = .held →
      ¬ a.Expired r.clock → a.lockTimeoutSecs ≤ lockTimeoutSecs)
    {n : Nat} {a : Acquisition} (ha : r.Outstanding n a) : a.domain ≠ domain := by
  intro hdomain
  have hstored := h.stored n a ha
  have htime := hours a (List.mem_of_getElem? ha.1) hdomain ha.2.1 ha.2.2
  rw [hdomain] at hstored
  simp only [LockStore.held, decode_of_get? hstored, Option.any_some, decide_eq_false_iff_not,
    Nat.not_lt] at hfree
  apply ha.2.2
  have hmono : saturatingAdd a.lock.startedAt a.lockTimeoutSecs
      ≤ saturatingAdd a.lock.startedAt lockTimeoutSecs := by
    unfold saturatingAdd
    omega
  exact Nat.le_trans hmono (Nat.le_trans hfree hnow)

lemma getElem?_snoc {α : Type} {l : List α} {x a : α} {n : Nat}
    (h : (l ++ [x])[n]? = some a) : l[n]? = some a ∨ (n = l.length ∧ a = x) := by
  rw [List.getElem?_append] at h
  split at h
  · exact Or.inl h
  · obtain ⟨hlt, heq⟩ := List.getElem?_eq_some_iff.mp h
    rw [List.length_singleton] at hlt
    rw [List.getElem_singleton] at heq
    exact Or.inr ⟨by omega, heq.symm⟩

lemma LeaseInv.acquire (h : LeaseInv r) {lockTimeoutSecs now : Nat} {fails : Option String}
    (hok : OneASecond r (.acquire domain lockTimeoutSecs now fails)) :
    LeaseInv (r.step (.acquire domain lockTimeoutSecs now fails)) := by
  simp only [step, tryAcquireCertLock, LockStore.tryAcquireLock]
  by_cases hnow : r.clock < now
  · rw [if_pos hnow]
    exact h
  rw [if_neg hnow]
  by_cases hheld : r.store.held (certLock domain) lockTimeoutSecs now = true
  · rw [if_pos hheld]
    exact h
  rw [if_neg hheld]
  cases fails with
  | some e => exact h
  | none =>
    rw [Bool.not_eq_true] at hheld
    have hsecond := hok (Nat.le_of_not_lt hnow) hheld rfl
    have hnone := fun n a (ha : r.Outstanding n a) => none_outstanding h (Nat.le_of_not_lt hnow)
      hheld (fun a ha hdomain => (hsecond a ha hdomain).2) ha
    have hfresh : ∀ (n : Nat) (a : Acquisition), r.acquisitions[n]? = some a → a.domain = domain →
        a.lock ≠ ⟨now, r.myNodeId⟩ := by
      intro n a ha hdomain heq
      exact (hsecond a (List.mem_of_getElem? ha) hdomain).1 (congrArg CertRenewLock.startedAt heq)
    constructor
    · intro m n a b ha hb hdomain hlock
      rcases getElem?_snoc ha with ha | ⟨hm, rfl⟩
      · rcases getElem?_snoc hb with hb | ⟨hn, rfl⟩
        · exact h.unique m n a b ha hb hdomain hlock
        · exact absurd hlock (hfresh m a ha hdomain)
      · rcases getElem?_snoc hb with hb | ⟨hn, rfl⟩
        · exact absurd hlock.symm (hfresh n b hb hdomain.symm)
        · rw [hm, hn]
    · intro n a ⟨ha, hfate, hexpired⟩
      rcases getElem?_snoc ha with ha | ⟨-, rfl⟩
      · have hold : r.Outstanding n a := ⟨ha, hfate, hexpired⟩
        have hkey : certLock domain ≠ certLock a.domain :=
          fun heq => hnone n a hold (certLock_injective heq).symm
        show (r.store.insert (certLock domain) _).get? (certLock a.domain) = _
        rw [BTreeMap.get?_insert_of_ne hkey]
        exact h.stored n a hold
      · exact BTreeMap.get?_insert_self _ _ _

lemma getElem?_set_fate {l : List Acquisition} {number n : Nat} {a b : Acquisition}
    {fate : LeaseFate} (ha : l[number]? = some a)
    (hb : (l.set number { a with fate })[n]? = some b) :
    ∃ b', l[n]? = some b' ∧ b'.domain = b.domain ∧ b'.lock = b.lock
      ∧ (n ≠ number → b' = b) ∧ (n = number → b.fate = fate) := by
  by_cases hn : number = n
  · subst hn
    rw [List.getElem?_set_self (List.getElem?_eq_some_iff.mp ha).1, Option.some.injEq] at hb
    subst hb
    exact ⟨a, ha, rfl, rfl, fun h => absurd rfl h, fun _ => rfl⟩
  · rw [List.getElem?_set_ne hn] at hb
    exact ⟨b, hb, rfl, rfl, fun _ => rfl, fun h => absurd h.symm hn⟩

lemma LeaseInv.release (h : LeaseInv r) (number : Nat) (fails : Option String) :
    LeaseInv (r.step (.release number fails)) := by
  simp only [step]
  cases ha : r.acquisitions[number]? with
  | none => exact h
  | some a =>
    -- whoever else is outstanding has another value, which the release leaves
    have hothers : ∀ n b, r.Outstanding n b → n ≠ number →
        (releaseCertLock r.store fails a.domain a.lock).2.get? (certLock b.domain)
          = some (.ok b.lock) := by
      intro n b hb hn
      refine releaseCertLock_get? ?_ (h.stored n b hb)
      intro hkey heq
      exact hn (h.unique n number b a hb.1 ha (certLock_injective hkey).symm heq)
    simp only [settle]
    cases hanswer : (releaseCertLock r.store fails a.domain a.lock).1 with
    | error e =>
      show LeaseInv { r with store := (releaseCertLock r.store fails a.domain a.lock).2 }
      rw [releaseCertLock_error hanswer]
      exact h
    | ok =>
      constructor
      · intro m n b c hb hc hdomain hlock
        obtain ⟨b', hb', hbd, hbl, -⟩ := getElem?_set_fate ha hb
        obtain ⟨c', hc', hcd, hcl, -⟩ := getElem?_set_fate ha hc
        exact h.unique m n b' c' hb' hc' (by rw [hbd, hcd, hdomain]) (by rw [hbl, hcl, hlock])
      · intro n b ⟨hb, hfate, hexpired⟩
        obtain ⟨b', hb', -, -, hsame, hset⟩ := getElem?_set_fate ha hb
        have hn : n ≠ number := by
          intro hn
          rw [hset hn] at hfate
          cases hfate
        rw [hsame hn] at hb'
        exact hothers n b ⟨hb', hfate, hexpired⟩ hn

lemma markForced_domain (domain : String) (a : Acquisition) :
    (markForced domain a).domain = a.domain ∧ (markForced domain a).lock = a.lock := by
  unfold markForced
  split
  · exact ⟨rfl, rfl⟩
  · exact ⟨rfl, rfl⟩

lemma markForced_held {a : Acquisition}
    (h : (markForced domain a).fate = .held) : a.domain ≠ domain ∧ markForced domain a = a := by
  unfold markForced at h ⊢
  split at h
  · cases h
  · rename_i hnot
    rw [if_neg hnot]
    exact ⟨fun hdomain => hnot ⟨hdomain, h⟩, rfl⟩

lemma LeaseInv.forceRelease (h : LeaseInv r) (domain : String)
    (fails : Option String) : LeaseInv (r.step (.forceRelease domain fails)) := by
  cases fails with
  | some e => exact h
  | none =>
    show LeaseInv { r with store := r.store.erase (certLock domain)
                           acquisitions := r.acquisitions.map (markForced domain) }
    have hback : ∀ {n : Nat} {a : Acquisition},
        (r.acquisitions.map (markForced domain))[n]? = some a →
        ∃ a', r.acquisitions[n]? = some a' ∧ markForced domain a' = a := by
      intro n a ha
      rw [List.getElem?_map] at ha
      exact Option.map_eq_some_iff.mp ha
    constructor
    · intro m n a b ha hb hdomain hlock
      obtain ⟨a', ha', rfl⟩ := hback ha
      obtain ⟨b', hb', rfl⟩ := hback hb
      rw [(markForced_domain domain a').1, (markForced_domain domain b').1] at hdomain
      rw [(markForced_domain domain a').2, (markForced_domain domain b').2] at hlock
      exact h.unique m n a' b' ha' hb' hdomain hlock
    · intro n a ⟨ha, hfate, hexpired⟩
      obtain ⟨a', ha', rfl⟩ := hback ha
      obtain ⟨hdomain, hsame⟩ := markForced_held hfate
      rw [hsame] at hfate hexpired ⊢
      show (r.store.erase (certLock domain)).get? (certLock a'.domain) = _
      rw [BTreeMap.get?_erase_of_ne fun heq => hdomain (certLock_injective heq).symm]
      exact h.stored n a' ⟨ha', hfate, hexpired⟩

lemma LeaseInv.step (h : LeaseInv r) (e : LockEvent) (hok : OneASecond r e) :
    LeaseInv (r.step e) := by
  cases e with
  | tick seconds => exact h.tick seconds
  | acquire domain lockTimeoutSecs now fails => exact h.acquire hok
  | release number fails => exact h.release number fails
  | forceRelease domain fails => exact h.forceRelease domain fails

-- == the runs

/-- A node that has taken no lease yet. -/
def start (myNodeId : Nat) (store : LockStore) (clock : Nat) : LockRun :=
  ⟨myNodeId, store, clock, []⟩

lemma leaseInv_start (myNodeId : Nat) (store : LockStore) (clock : Nat) :
    LeaseInv (start myNodeId store clock) := by
  constructor
  · intro m n a b ha
    cases ha
  · intro n a ha
    cases ha.1

/-- Leases taken in seconds of their own are exclusive, and a late
release leaves the lock of its successor. -/
theorem leases_are_exclusive (myNodeId : Nat) (store : LockStore) (clock : Nat)
    (events : List LockEvent)
    (hok : Along LockRun.step OneASecond (start myNodeId store clock) events) :
    AtMostOne (events.foldl LockRun.step (start myNodeId store clock))
      ∧ SparesSuccessor (events.foldl LockRun.step (start myNodeId store clock)) := by
  have hinv : LeaseInv (events.foldl LockRun.step (start myNodeId store clock)) :=
    hok.foldl (fun r e h he => h.step e he) (leaseInv_start myNodeId store clock)
  exact ⟨hinv.atMostOne, hinv.sparesSuccessor⟩

/-- A lease runs out, and another is taken before the first is given back. -/
def takeover : List LockEvent :=
  [.acquire "example.com" 600 100 none, .tick 700, .acquire "example.com" 600 800 none,
   .release 0 none]

/-- The late release leaves the second lease. -/
theorem takeover_is_exclusive :
    AtMostOne (takeover.foldl LockRun.step (start 1 .empty 100))
      ∧ SparesSuccessor (takeover.foldl LockRun.step (start 1 .empty 100)) :=
  leases_are_exclusive 1 .empty 100 takeover (by decide +kernel)

/-- A lease is forced out and taken again within the second. -/
def sameSecond : List LockEvent :=
  [.acquire "example.com" 600 100 none, .forceRelease "example.com" none,
   .acquire "example.com" 600 100 none]

/-- The release with the first takes the lock of the second away, and two
are outstanding after the next call. -/
theorem forced_release_takes_successor :
    (∃ a b, (sameSecond.foldl LockRun.step (start 1 .empty 100)).acquisitions = [a, b]
      ∧ a.fate = .forced ∧ b.fate = .held
      ∧ (sameSecond.foldl LockRun.step (start 1 .empty 100)).store.get? (certLock "example.com")
        = some (.ok b.lock)
      ∧ ((sameSecond ++ [LockEvent.release 0 none]).foldl LockRun.step
        (start 1 .empty 100)).store.get? (certLock "example.com") = none)
    ∧ ¬ AtMostOne ((sameSecond ++ [LockEvent.release 0 none,
      LockEvent.acquire "example.com" 600 100 none]).foldl
      LockRun.step (start 1 .empty 100)) := by
  refine ⟨⟨_, _, rfl, by decide +kernel, by decide +kernel, by decide +kernel,
    by decide +kernel⟩, ?_⟩
  intro h
  have hsame := h 1 2 ⟨"example.com", ⟨100, 1⟩, 600, .held⟩ ⟨"example.com", ⟨100, 1⟩, 600, .held⟩
    ⟨by decide +kernel, rfl, by decide +kernel⟩ ⟨by decide +kernel, rfl, by decide +kernel⟩ rfl
  cases hsame

end LockRun

end Dstack.Gateway
