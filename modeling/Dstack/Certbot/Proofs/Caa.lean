/-
Rewriting CAA records does not open the zone.

Every change a run makes is one of four (`Move`): a first guard, a second
guard beside an `issue` record, this account's own record where both tags
restrict, or the removal of a record where both tags still restrict
afterwards. None of them permits anything new but this account's own
value, and a name that has both an `issue` and an `issuewild` record keeps
one of each. So what holds at every moment, in every run and after any
number of interrupted ones, follows from `Move` alone; the run itself is
only shown to make such moves, and to fail at nothing but a call that was
not answered.

The zone is read with tags in lower case. A record tagged `Issue` is an
`issue` record to every issuer and none to this code.
-/
import Dstack.Certbot.Caa
import Dstack.Lib.Triple

namespace Dstack.Certbot

open Lib Lib.Caa Lib.Stateful

-- == words

lemma isWhitespace_of_isAlphanum {c : Char} (h : c.isAlphanum = true) :
    isWhitespace c = false := by
  simp only [Char.isAlphanum, Char.isAlpha, Char.isUpper, Char.isLower, Char.isDigit,
    Bool.or_eq_true, Bool.and_eq_true, decide_eq_true_eq, ge_iff_le, UInt32.le_iff_toNat_le] at h
  have hval : c.toNat = c.val.toNat := rfl
  have hbounds : 'A'.val.toNat = 65 ∧ 'Z'.val.toNat = 90 ∧ 'a'.val.toNat = 97
      ∧ 'z'.val.toNat = 122 ∧ '0'.val.toNat = 48 ∧ '9'.val.toNat = 57 := by decide
  simp only [isWhitespace, decide_eq_false_iff_not, List.mem_cons, List.not_mem_nil, or_false]
  omega

lemma splitWhitespace_renderCaa (provider : Provider) (p : Property) :
    splitWhitespace (renderCaa provider p)
      = (toString p.flags).toList :: p.tag.text.toList
        :: splitWhitespace (provider.quote p.value) := by
  have hflags : (toString p.flags).toList = Nat.toDigits 10 p.flags := by
    simp [toString, Nat.repr]
  have hdigits : ∀ c ∈ (toString p.flags).toList, isWhitespace c = false := by
    intro c hc
    rw [hflags] at hc
    apply isWhitespace_of_isAlphanum
    rw [Char.isAlphanum, Nat.isDigit_of_mem_toDigits (by decide) (by decide) hc, Bool.or_true]
  have htag : ∀ c ∈ p.tag.text.toList, isWhitespace c = false :=
    fun c hc => isWhitespace_of_isAlphanum (p.tag.alphanumeric c hc)
  have hne : (toString p.flags).toList ≠ [] := hflags ▸ Nat.toDigits_ne_nil
  have htext : (renderCaa provider p).toList
      = (toString p.flags).toList ++ ' ' :: (p.tag.text.toList
        ++ ' ' :: (provider.quote p.value).toList) := by
    simp only [renderCaa, String.toList_append, List.append_assoc]
    rfl
  rw [splitWhitespace, htext,
    List.splitOnP_append_cons_of_forall_mem hdigits ' ' (by decide),
    List.splitOnP_append_cons_of_forall_mem htag ' ' (by decide), splitWhitespace]
  simp only [List.filter_cons, ne_eq, hne, p.tag.nonempty, not_false_eq_true, decide_true,
    if_true]

lemma caaTag_renderCaa (provider : Provider) (p : Property) :
    caaTag (renderCaa provider p) = some p.tag.text.toList := by
  rw [caaTag, splitWhitespace_renderCaa]
  rfl

lemma mem_splitOnP {α : Type} {p : α → Bool} {c : α} {l : List α} (hc : c ∈ l)
    (hp : p c = false) : ∃ w ∈ l.splitOnP p, c ∈ w := by
  rw [← List.splitOnP_spec (p := p) l, ← List.map_uncurry_zip_eq_zipWith] at hc
  obtain ⟨_, hjoined, hc⟩ := List.mem_flatten.mp hc
  obtain ⟨⟨w, separator⟩, hzip, rfl⟩ := List.mem_map.mp hjoined
  obtain ⟨hw, hseparator⟩ := List.of_mem_zip hzip
  refine ⟨w, hw, (List.mem_append.mp hc).resolve_right fun hc => ?_⟩
  simp only [List.mem_append, List.mem_map, List.mem_filter, List.mem_singleton] at hseparator
  rcases hseparator with ⟨x, ⟨-, hx⟩, rfl⟩ | rfl
  · rw [List.mem_singleton.mp hc, hx] at hp
    cases hp
  · cases hc

lemma mem_dropWhile {α : Type} (p : α → Bool) {c : α} (hp : p c = false) {l : List α}
    (hc : c ∈ l) : c ∈ l.dropWhile p := by
  rw [← List.takeWhile_append_dropWhile (p := p) (l := l), List.mem_append] at hc
  refine hc.resolve_left fun h => ?_
  rw [List.mem_takeWhile_imp h] at hp
  cases hp

lemma mem_trimQuotes {c : Char} {cs : List Char} (hc : c ∈ cs) (hne : c ≠ '"') :
    c ∈ trimQuotes cs := by
  have hkept : ∀ {l : List Char}, c ∈ l → c ∈ l.dropWhile (· = '"') :=
    mem_dropWhile (· = '"') (by simpa using hne)
  rw [trimQuotes, List.mem_reverse]
  exact hkept (List.mem_reverse.mpr (hkept hc))

variable {p : Property}

lemma isCaaGuard_of_letter (provider : Provider) {c : Char}
    (hc : c ∈ p.value.toList) (halpha : c.isAlpha = true) :
    isCaaGuard (renderCaa provider p) = false := by
  have hquoted := provider.quote_letters p.value c hc halpha
  have hblank : isWhitespace c = false :=
    isWhitespace_of_isAlphanum (by rw [Char.isAlphanum, halpha, Bool.true_or])
  obtain ⟨w, hw, hcw⟩ := mem_splitOnP hquoted hblank
  have hword : w ∈ splitWhitespace (provider.quote p.value) :=
    List.mem_filter.mpr ⟨hw, by simpa using List.ne_nil_of_mem hcw⟩
  rw [isCaaGuard, splitWhitespace_renderCaa]
  split
  next value heq =>
    simp only [List.cons.injEq] at heq
    obtain ⟨-, -, hwords⟩ := heq
    rw [hwords, List.mem_singleton] at hword
    subst hword
    have hmem := mem_trimQuotes hcw (by rintro rfl; cases halpha)
    have hvalue : trimQuotes w ≠ ";".toList := by
      intro h
      rw [h] at hmem
      rw [List.mem_singleton.mp hmem] at halpha
      cases halpha
    rw [decide_eq_false hvalue, Bool.and_false]
  · rfl

lemma content_isNoGuard (provider : Provider) (client : AcmeClient) (tag : Tag) :
    isCaaGuard (renderCaa provider ⟨0, tag, client.content⟩) = false := by
  refine isCaaGuard_of_letter provider (c := 'v') ?_ rfl
  simp only [AcmeClient.content, caaContent, String.toList_append, List.mem_append]
  exact .inl (.inl (.inl (.inr (by decide))))

variable {tag : Tag}

lemma guard_isGuard (provider : Provider) (htag : tag = .issue ∨ tag = .issuewild) :
    isCaaGuard (renderCaa provider ⟨0, tag, ";"⟩) = true := by
  rw [renderCaa]
  rcases provider.quote_semicolon with hquote | hquote <;> rw [hquote] <;>
    rcases htag with rfl | rfl <;> decide

-- == the zone

/-- The CAA records of a name. -/
def rrset (z : Zone) (n : Caa.Name) : List Property :=
  z.filterMap fun r =>
    match r.data with
    | .caa p => if labels r.name = n then some p else none
    | .other _ _ _ => none

/-- A CAA record of the name with this tag. -/
def Tagged (n : Caa.Name) (tag : Tag) (r : Stored) : Prop :=
  labels r.name = n ∧ ∃ p, r.data = .caa p ∧ p.tag = tag

/-- Whether this code takes the record for one that restricts. -/
def hasIssuerTag (r : Stored) : Bool :=
  match r.data with
  | .caa p => p.tag = .issue || p.tag = .issuewild
  | .other _ _ _ => false

def isConstraint (n : Caa.Name) (r : Stored) : Bool := labels r.name = n && hasIssuerTag r

/-- There is an `issue` and an `issuewild` record. -/
def HasBoth (z : Zone) (n : Caa.Name) : Prop :=
  (∃ r ∈ z, Tagged n .issue r) ∧ ∃ r ∈ z, Tagged n .issuewild r

/-- No two records have one identifier. -/
def Zone.Distinct (z : Zone) : Prop := (z.map Stored.id).Nodup

variable {z : Zone} {r : Stored}

lemma Zone.Distinct.eq (h : z.Distinct) {q : Stored} (hr : r ∈ z) (hq : q ∈ z)
    (hid : r.id = q.id) : r = q :=
  List.inj_on_of_nodup_map h hr hq hid

lemma Zone.Distinct.mem_drop (h : z.Distinct) (hr : r ∈ z) {q : Stored} :
    q ∈ z.filter (·.id ≠ r.id) ↔ q ∈ z ∧ q ≠ r := by
  rw [List.mem_filter, decide_eq_true_eq]
  exact and_congr_right fun hq => not_congr ⟨h.eq hq hr, congrArg _⟩

lemma Zone.Distinct.filter_drop (h : z.Distinct) (hr : r ∈ z) {keep : Stored → Bool}
    (hkeep : keep r = false) : (z.filter (·.id ≠ r.id)).filter keep = z.filter keep := by
  rw [List.filter_filter]
  refine List.filter_congr fun q hq => ?_
  by_cases hid : q.id = r.id
  · rw [h.eq hq hr hid, hkeep, Bool.false_and]
  · simp [hid]

variable {n : Caa.Name}

lemma mem_rrset :
    p ∈ rrset z n ↔ ∃ r ∈ z, labels r.name = n ∧ r.data = .caa p := by
  simp only [rrset, List.mem_filterMap]
  constructor
  · rintro ⟨r, hr, h⟩
    split at h
    next q hq =>
      split at h
      next hn =>
        cases h
        exact ⟨r, hr, hn, hq⟩
      · cases h
    · cases h
  · rintro ⟨r, hr, hn, hdata⟩
    refine ⟨r, hr, ?_⟩
    rw [hdata]
    simp only [hn, if_true]

lemma rrset_append_of_eq (hdata : r.data = .caa p) :
    rrset (z ++ [r]) (labels r.name) = rrset z (labels r.name) ++ [p] := by
  simp [rrset, List.filterMap_append, hdata]

lemma rrset_append_of_ne (hn : n ≠ labels r.name) :
    rrset (z ++ [r]) n = rrset z n := by
  have hne : labels r.name ≠ n := Ne.symm hn
  rw [rrset, List.filterMap_append, ← rrset]
  cases hdata : r.data <;> simp [hdata, hne]

lemma rrset_filter_of_ne (hz : z.Distinct) (hr : r ∈ z)
    (hn : n ≠ labels r.name) : rrset (z.filter (·.id ≠ r.id)) n = rrset z n := by
  rw [rrset, List.filterMap_filter, rrset]
  refine List.filterMap_congr fun q hq => ?_
  by_cases hid : q.id = r.id
  · have hqr : q = r := hz.eq hq hr hid
    subst hqr
    cases hdata : q.data <;> simp [Ne.symm hn]
  · simp [hid]

lemma Tagged.mem_rrset (hr : r ∈ z) (h : Tagged n tag r) : ∃ p ∈ rrset z n, p.tag = tag := by
  obtain ⟨hn, p, hdata, htag⟩ := h
  exact ⟨p, Certbot.mem_rrset.mpr ⟨r, hr, hn, hdata⟩, htag⟩

lemma tagIs_self (h : p.tag = tag) : p.tagIs tag = true := by
  rw [Property.tagIs, h]
  exact decide_eq_true rfl

lemma HasBoth.restricts (h : HasBoth z n) :
    Restricts (rrset z n) .issue ∧ Restricts (rrset z n) .issuewild := by
  obtain ⟨⟨r, hr, htagged⟩, q, hq, htagged'⟩ := h
  obtain ⟨p, hp, htag⟩ := htagged.mem_rrset hr
  obtain ⟨p', hp', htag'⟩ := htagged'.mem_rrset hq
  exact ⟨⟨p, hp, tagIs_self htag⟩, p', hp', tagIs_self htag'⟩

lemma hasIssuerTag_iff :
    hasIssuerTag r = true ↔ ∃ p, r.data = .caa p ∧ (p.tag = .issue ∨ p.tag = .issuewild) := by
  rw [hasIssuerTag]
  cases r.data <;> simp

lemma isConstraint_iff :
    isConstraint n r = true ↔ Tagged n .issue r ∨ Tagged n .issuewild r := by
  rw [isConstraint, Bool.and_eq_true, hasIssuerTag_iff, decide_eq_true_eq, Tagged, Tagged]
  constructor
  · rintro ⟨hn, p, hdata, htag | htag⟩
    · exact .inl ⟨hn, p, hdata, htag⟩
    · exact .inr ⟨hn, p, hdata, htag⟩
  · rintro (⟨hn, p, hdata, htag⟩ | ⟨hn, p, hdata, htag⟩)
    · exact ⟨hn, p, hdata, .inl htag⟩
    · exact ⟨hn, p, hdata, .inr htag⟩

lemma Tagged.isConstraint (h : Tagged n tag r)
    (htag : tag = .issue ∨ tag = .issuewild) : isConstraint n r = true := by
  rcases htag with rfl | rfl
  · exact isConstraint_iff.mpr (.inl h)
  · exact isConstraint_iff.mpr (.inr h)

lemma isConstraint_labels (h : isConstraint n r = true) : labels r.name = n :=
  of_decide_eq_true (Bool.and_eq_true_iff.mp h).1

lemma isConstraint_hasIssuerTag (h : isConstraint n r = true) : hasIssuerTag r = true :=
  (Bool.and_eq_true_iff.mp h).2

-- == moves

/-- One change of a run whose own records say `content`. -/
inductive Move (content : String) (z : Zone) : Zone → Prop
  | same : Move content z z
  | guardIssue {id name : String} : Move content z (z ++ [⟨id, name, .caa ⟨0, .issue, ";"⟩⟩])
  | guardWild {id name : String} (hissue : ∃ r ∈ z, Tagged (labels name) .issue r) :
      Move content z (z ++ [⟨id, name, .caa ⟨0, .issuewild, ";"⟩⟩])
  | own {id name : String} {tag : Tag} (htag : tag = .issue ∨ tag = .issuewild)
      (hboth : HasBoth z (labels name)) :
      Move content z (z ++ [⟨id, name, .caa ⟨0, tag, content⟩⟩])
  | drop {r : Stored} {n : Caa.Name} (hz : z.Distinct) (hr : r ∈ z)
      (hconstraint : isConstraint n r = true)
      (hboth : HasBoth (z.filter (·.id ≠ r.id)) n) :
      Move content z (z.filter (·.id ≠ r.id))

namespace Move

variable {content : String} {z z' : Zone}

lemma append_permits {own : Prop} (hdata : r.data = .caa p) {k : Kind} {g : Grant}
    (hchange : Allows (rrset z (labels r.name) ++ [p]) k g →
      (rrset z (labels r.name) ≠ [] ∧ Allows (rrset z (labels r.name)) k g) ∨ own)
    (m : Caa.Name) (h : Permits (rrset (z ++ [r])) k g m) : Permits (rrset z) k g m ∨ own := by
  refine Permits.of_change (fun m hm => rrset_append_of_ne hm) ?_ ?_ m h
  · rw [rrset_append_of_eq hdata]
    simp
  · rw [rrset_append_of_eq hdata]
    exact hchange

lemma append_hasBoth (h : HasBoth z n) : HasBoth (z ++ [r]) n := by
  obtain ⟨⟨a, ha, ha'⟩, b, hb, hb'⟩ := h
  exact ⟨⟨a, List.mem_append_left _ ha, ha'⟩, b, List.mem_append_left _ hb, hb'⟩

lemma permits (h : Move content z z') (k : Kind) (g : Grant) (m : Caa.Name)
    (hm : Permits (rrset z') k g m) :
    Permits (rrset z) k g m ∨ grantOf content = some g := by
  have hnone : grantOf ";" = none := rfl
  have hdenial (tag : Tag) : grantOf (Property.mk 0 tag ";").value = none := hnone
  cases h with
  | same => exact .inl hm
  | @guardIssue id name =>
    refine append_permits (r := ⟨id, name, .caa ⟨0, .issue, ";"⟩⟩) rfl ?_ m hm
    intro hallows
    refine .inl ⟨?_, hallows.of_denial (hdenial _)⟩
    intro hempty
    rw [hempty] at hallows
    exact not_allows_denial rfl (hdenial _) rfl hallows
  | @guardWild id name hissue =>
    refine append_permits (r := ⟨id, name, .caa ⟨0, .issuewild, ";"⟩⟩) rfl ?_ m hm
    intro hallows
    obtain ⟨r, hr, htagged⟩ := hissue
    obtain ⟨p, hp, -⟩ := htagged.mem_rrset hr
    exact .inl ⟨List.ne_nil_of_mem hp, hallows.of_denial (hdenial _)⟩
  | @own id name tag htag hboth =>
    refine append_permits (r := ⟨id, name, .caa ⟨0, tag, content⟩⟩) rfl ?_ m hm
    intro hallows
    obtain ⟨⟨p, hp, htag⟩, q, hq, htag'⟩ := hboth.restricts
    rcases hallows.of_subset
      ⟨p, List.mem_append_left _ hp, htag⟩ ⟨q, List.mem_append_left _ hq, htag'⟩
      (fun hclear s hs => hclear s (List.mem_append_left _ hs))
      (fun s hs => by
        rcases List.mem_append.mp hs with hs | hs
        · exact .inl hs
        · rw [List.mem_singleton.mp hs]
          exact .inr fun hg => hg) with hold | hown
    · exact .inl ⟨List.ne_nil_of_mem hp, hold⟩
    · exact .inr hown
  | @drop r n hz hr hconstraint hboth =>
    obtain rfl := isConstraint_labels hconstraint
    have hsub : ∀ p ∈ rrset (z.filter (·.id ≠ r.id)) (labels r.name),
        p ∈ rrset z (labels r.name) := by
      intro p hp
      obtain ⟨q, hq, hdata⟩ := mem_rrset.mp hp
      exact mem_rrset.mpr ⟨q, ((hz.mem_drop hr).mp hq).1, hdata⟩
    obtain ⟨hissue, hwild⟩ := hboth.restricts
    have ⟨p, hp, _⟩ := hissue
    refine Permits.of_change
      (fun m hm => rrset_filter_of_ne hz hr hm) (List.ne_nil_of_mem hp) ?_ m hm
    intro hallows
    have hclear : (∀ s ∈ rrset (z.filter (·.id ≠ r.id)) (labels r.name),
        s.isObstacle = false) → ∀ s ∈ rrset z (labels r.name), s.isObstacle = false := by
      -- the record that goes is no obstacle itself
      intro hclear s hs
      obtain ⟨q, hq, hqn, hqdata⟩ := mem_rrset.mp hs
      by_cases hqr : q = r
      · subst hqr
        obtain ⟨p', hp', htag⟩ := hasIssuerTag_iff.mp (isConstraint_hasIssuerTag hconstraint)
        rw [hqdata] at hp'
        cases hp'
        rcases htag with htag | htag <;> simp [Property.isObstacle, tagIs_self htag]
      · exact hclear s (mem_rrset.mpr ⟨q, (hz.mem_drop hr).mpr ⟨hq, hqr⟩, hqn, hqdata⟩)
    rcases hallows.of_subset hissue hwild hclear (fun s hs => .inl (hsub s hs)) with hold | hown
    · exact .inl ⟨List.ne_nil_of_mem (hsub p hp), hold⟩
    · exact .inr hown

lemma hasBoth (h : Move content z z') {m : Caa.Name} (hm : HasBoth z m) : HasBoth z' m := by
  cases h with
  | same => exact hm
  | guardIssue => exact append_hasBoth hm
  | guardWild => exact append_hasBoth hm
  | own => exact append_hasBoth hm
  | @drop r n hz hr hconstraint hboth =>
    by_cases hmn : m = n
    · subst hmn
      exact hboth
    · have hother : ∀ {q : Stored} {tag : Tag}, q ∈ z → Tagged m tag q →
          q ∈ z.filter (·.id ≠ r.id) := by
        intro q tag hq htagged
        refine (hz.mem_drop hr).mpr ⟨hq, ?_⟩
        rintro rfl
        exact hmn (htagged.1.symm.trans (isConstraint_labels hconstraint))
      obtain ⟨⟨a, ha, ha'⟩, b, hb, hb'⟩ := hm
      exact ⟨⟨a, hother ha ha', ha'⟩, b, hother hb hb', hb'⟩

lemma rest (h : Move content z z') :
    z'.filter (fun r => !hasIssuerTag r) = z.filter fun r => !hasIssuerTag r := by
  have happend : ∀ {r : Stored}, hasIssuerTag r = true →
      (z ++ [r]).filter (fun r => !hasIssuerTag r) = z.filter fun r => !hasIssuerTag r := by
    intro r hr
    simp [List.filter_append, hr]
  cases h with
  | same => rfl
  | guardIssue => exact happend rfl
  | guardWild => exact happend rfl
  | own htag => exact happend (hasIssuerTag_iff.mpr ⟨_, rfl, htag⟩)
  | drop hz hr hconstraint =>
    exact hz.filter_drop hr (by simp [isConstraint_hasIssuerTag hconstraint])

end Move

-- == calls

variable {content : String} {s : Dns} {z' : Zone}

/-- Every zone since `start` came from the one before by a move. -/
structure Traced (start : Zone) (content : String) (s : Dns) : Prop where
  distinct : s.zone.Distinct
  latest : ∃ earlier, s.moments = s.zone :: earlier
  moves : s.moments.IsChain fun later earlier => Move content earlier later
  oldest : ∃ later, s.moments = later ++ [start]

section Program

variable {provider : Provider} {fate : Nat → Answer} {client : AcmeClient} {start : Zone}
  {first : Nat}

/-- A state of a run that made its first call at number `first`. -/
def On (start : Zone) (content : String) (first : Nat) (R : Zone → Prop) (s : Dns) : Prop :=
  Traced start content s ∧ first ≤ s.calls ∧ R s.zone

/-- A state in which a run ended at a call that was not answered. -/
def Broken (start : Zone) (content : String) (fate : Nat → Answer) (first : Nat) (s : Dns) : Prop :=
  Traced start content s ∧ ∃ i, first ≤ i ∧ fate i ≠ .answered

/-- From a zone with `R` the calls make moves and leave `S`, unless one of
them is not answered. -/
def Does {α : Type} (fate : Nat → Answer) (content : String) (R : Zone → Prop)
    (x : Stateful Dns α) (S : α → Zone → Prop) : Prop :=
  ∀ start first, Triple (On start content first R) x (fun a => On start content first (S a))
    (Broken start content fate first)

section Does

variable {α β : Type} {R R' : Zone → Prop} {S S' : α → Zone → Prop} {T : β → Zone → Prop}
  {x : Stateful Dns α}

lemma Does.pure {a : α} (h : ∀ z, z.Distinct → R z → S a z) : Does fate content R (pure a) S :=
  fun _ _ => .pure fun _ hs => ⟨hs.1, hs.2.1, h _ hs.1.distinct hs.2.2⟩

lemma Does.bind {f : α → Stateful Dns β} (hx : Does fate content R x S)
    (hf : ∀ a, Does fate content (S a) (f a) T) : Does fate content R (x >>= f) T :=
  fun start first => (hx start first).bind fun a => hf a start first

lemma Does.conseq (hx : Does fate content R x S) (hpre : ∀ z, z.Distinct → R' z → R z)
    (hpost : ∀ a z, z.Distinct → S a z → S' a z) : Does fate content R' x S' :=
  fun start first => (hx start first).conseq
    (fun _ hs => ⟨hs.1, hs.2.1, hpre _ hs.1.distinct hs.2.2⟩)
    (fun _ _ hs => ⟨hs.1, hs.2.1, hpost _ _ hs.1.distinct hs.2.2⟩) fun _ hs => hs

lemma Does.pre (hx : Does fate content R x S) (h : ∀ z, z.Distinct → R' z → R z) :
    Does fate content R' x S :=
  hx.conseq h fun _ _ _ hz => hz

lemma Does.post (hx : Does fate content R x S) (h : ∀ a z, z.Distinct → S a z → S' a z) :
    Does fate content R x S' :=
  hx.conseq (fun _ _ hz => hz) h

/-- The zone in which it begins may be named. -/
lemma Does.at (h : ∀ z, z.Distinct → R z → Does fate content (· = z) x S) :
    Does fate content R x S :=
  fun start first s hs => h s.zone hs.1.distinct hs.2.2 start first s ⟨hs.1, hs.2.1, rfl⟩

lemma Does.each {f : β → Stateful Dns Unit} {I : List β → Zone → Prop}
    (step : ∀ b rest, Does fate content (I (b :: rest)) (f b) fun _ => I rest) (l : List β) :
    Does fate content (I l) (each f l) fun _ => I [] :=
  fun start first => Triple.each (I := fun rest => On start content first (I rest))
    (fun b rest => step b rest start first) l

end Does

lemma Traced.next {zone : Zone} {calls : Nat}
    (h : Traced start content s) (hmove : Move content s.zone zone) (hdistinct : zone.Distinct) :
    Traced start content ⟨zone, calls, zone :: s.moments⟩ := by
  obtain ⟨earlier, hmoments⟩ := h.latest
  obtain ⟨later, hlater⟩ := h.oldest
  refine ⟨hdistinct, ⟨s.moments, rfl⟩, ?_, zone :: later, by rw [hlater, List.cons_append]⟩
  have hmoves := h.moves
  rw [hmoments] at hmoves ⊢
  exact List.isChain_cons_cons.mpr ⟨hmove, hmoves⟩

variable {R : Zone → Prop}

lemma call_spec {α : Type} {effect : Nat → Zone → Result (α × Zone)} {S : α → Zone → Prop}
    (h : ∀ i z, z.Distinct → R z → ∃ a z', effect i z = .ok (a, z') ∧ Move content z z'
      ∧ z'.Distinct ∧ S a z') :
    Does fate content R (Dns.call fate effect) S := by
  rintro start first s ⟨htraced, hfirst, hR⟩
  obtain ⟨a, z', heffect, hmove, hdistinct, hS⟩ := h s.calls s.zone htraced.distinct hR
  have hnext : ∀ calls, Traced start content ⟨z', calls, z' :: s.moments⟩ :=
    fun calls => htraced.next hmove hdistinct
  simp only [Dns.call, heffect]
  cases hfate : fate s.calls with
  | answered => exact ⟨hnext _, Nat.le_succ_of_le hfirst, hS⟩
  | refused error =>
    exact ⟨⟨htraced.distinct, htraced.latest, htraced.moves, htraced.oldest⟩, s.calls, hfirst,
      by simp [hfate]⟩
  | lost error => exact ⟨hnext _, s.calls, hfirst, by simp [hfate]⟩

/-- The records of the name, each once, as the provider shows them. -/
structure Lists (provider : Provider) (z : Zone) (name : String) (listing : List Record) :
    Prop where
  mem : ∀ l, l ∈ listing ↔ ∃ r ∈ z, isAt name r = true ∧ render provider r = l
  nodup : (listing.map Record.id).Nodup

lemma render_id (provider : Provider) (r : Stored) : (render provider r).id = r.id := by
  rw [render]
  cases r.data <;> rfl

variable {name : String}

lemma getRecords_spec :
    Does fate content R (getRecords provider fate name)
      fun listing z => R z ∧ Lists provider z name listing := by
  refine call_spec fun i z hz hR => ⟨_, z, rfl, .same, hz, hR, ?_, ?_⟩
  · intro l
    rw [List.mem_map]
    simp only [(provider.order_perm i _).mem_iff, List.mem_filter, and_assoc]
  · rw [List.map_map]
    have hids : (Record.id ∘ render provider) = Stored.id := funext (render_id provider)
    rw [hids]
    exact ((provider.order_perm i _).map _).nodup_iff.mpr
      (hz.sublist (List.filter_sublist.map _))

lemma Distinct.append (hz : z.Distinct)
    (hr : r.id ∉ z.map Stored.id) : Zone.Distinct (z ++ [r]) := by
  rw [Zone.Distinct, List.map_append, List.map_singleton, ← List.concat_eq_append]
  exact hz.concat hr

lemma add_spec {value : String} {S : String → Zone → Prop}
    (h : ∀ z, z.Distinct → R z → (∀ r ∈ z, isDuplicate name ⟨0, tag, value⟩ r = false)
      ∧ ∀ id, Move content z (z ++ [⟨id, name, .caa ⟨0, tag, value⟩⟩])
        ∧ S id (z ++ [⟨id, name, .caa ⟨0, tag, value⟩⟩])) :
    Does fate content R (addCaaRecord provider fate name 0 tag value) S := by
  refine call_spec fun i z hz hR => ?_
  obtain ⟨hnew, hadd⟩ := h z hz hR
  obtain ⟨hmove, hS⟩ := hadd (provider.newId i z)
  have hany : ¬(provider.rejectsDuplicates = true
      ∧ z.any (isDuplicate name ⟨0, tag, value⟩) = true) := by
    rintro ⟨-, hany⟩
    obtain ⟨r, hr, hdup⟩ := List.any_eq_true.mp hany
    rw [hnew r hr] at hdup
    cases hdup
  refine ⟨_, _, ?_, hmove, Distinct.append hz (provider.newId_fresh i z), hS⟩
  rw [if_neg hany]

lemma remove_spec {S : Zone → Prop} {id : String}
    (h : ∀ z, z.Distinct → R z → (∃ r ∈ z, r.id = id)
      ∧ Move content z (z.filter (·.id ≠ id)) ∧ S (z.filter (·.id ≠ id))) :
    Does fate content R (removeRecord fate id) fun _ => S := by
  refine call_spec fun i z hz hR => ?_
  obtain ⟨⟨r, hr, hid⟩, hmove, hS⟩ := h z hz hR
  have hany : z.any (·.id = id) = true := List.any_eq_true.mpr ⟨r, hr, decide_eq_true hid⟩
  refine ⟨(), _, ?_, hmove, hz.sublist (List.filter_sublist.map _), hS⟩
  rw [if_pos hany]

-- == records held

/-- The zone without what restricts at the name. -/
def frame (n : Caa.Name) (z : Zone) : Zone := z.filter fun r => !isConstraint n r

lemma frame_append (hr : isConstraint n r = true) :
    frame n (z ++ [r]) = frame n z := by
  simp [frame, List.filter_append, hr]

lemma frame_filter (hz : z.Distinct) (hr : r ∈ z) (hconstraint : isConstraint n r = true) :
    frame n (z.filter (·.id ≠ r.id)) = frame n z :=
  hz.filter_drop hr (by simp [hconstraint])

/-- A record a run counts on: its tag, its identifier and what it states. -/
structure Entry where
  tag : Tag
  id : String
  meets : Property → Prop

def guardEntry (provider : Provider) (tag : Tag) (id : String) : Entry :=
  ⟨tag, id, fun p => isCaaGuard (renderCaa provider p) = true⟩

def ownEntry (client : AcmeClient) (tag : Tag) (id : String) : Entry :=
  ⟨tag, id, (· = ⟨0, tag, client.content⟩)⟩

/-- The record is at the name. -/
def Entry.At (z : Zone) (n : Caa.Name) (e : Entry) : Prop :=
  ∃ r ∈ z, r.id = e.id ∧ labels r.name = n ∧ ∃ p, r.data = .caa p ∧ p.tag = e.tag ∧ e.meets p

section Entries

variable {e e' : Entry} {kept : List Entry} {others : List String} {F : Zone}

lemma Entry.At.tagged (h : e.At z n) : ∃ r ∈ z, r.id = e.id ∧ Tagged n e.tag r := by
  obtain ⟨r, hr, hid, hn, p, hdata, htag, -⟩ := h
  exact ⟨r, hr, hid, hn, p, hdata, htag⟩

lemma Entry.At.mono (h : e.At z n) (hz : ∀ r ∈ z, r.id = e.id → r ∈ z') : e.At z' n := by
  obtain ⟨r, hr, hid, hrest⟩ := h
  exact ⟨r, hz r hr hid, hid, hrest⟩

lemma Entry.At.append (h : e.At z n) : e.At (z ++ [r]) n :=
  h.mono fun _ hr _ => List.mem_append_left _ hr

lemma Entry.At.id_ne (hz : z.Distinct) (h : e.At z n) (h' : e'.At z n)
    (hne : e.tag = e'.tag → ∀ p, e.meets p → ¬e'.meets p) : e.id ≠ e'.id := by
  intro hids
  obtain ⟨r, hr, hid, -, p, hdata, htag, hmeets⟩ := h
  obtain ⟨q, hq, hid', -, p', hdata', htag', hmeets'⟩ := h'
  obtain rfl : r = q := hz.eq hr hq (hid.trans (hids.trans hid'.symm))
  rw [hdata] at hdata'
  cases hdata'
  exact hne (htag.symm.trans htag') p hmeets hmeets'

/-- At the name are the records `kept`; what else restricts there is among
`others`, and the rest of the zone is `F`. -/
structure Holding (n : Caa.Name) (F : Zone) (kept : List Entry) (others : List String) (z : Zone) :
    Prop where
  frame : frame n z = F
  present : ∀ e ∈ kept, e.At z n
  constraints : ∀ r ∈ z, isConstraint n r = true → r.id ∈ kept.map Entry.id ∨ r.id ∈ others

/-- Both tags are among the records. -/
def Both (kept : List Entry) : Prop :=
  (∃ e ∈ kept, e.tag = .issue) ∧ ∃ e ∈ kept, e.tag = .issuewild

lemma Both.hasBoth (hboth : Both kept) (h : ∀ e ∈ kept, e.At z n) : HasBoth z n := by
  have htagged : ∀ tag, (∃ e ∈ kept, e.tag = tag) → ∃ r ∈ z, Tagged n tag r := by
    rintro tag ⟨e, he, rfl⟩
    obtain ⟨r, hr, -, htagged⟩ := (h e he).tagged
    exact ⟨r, hr, htagged⟩
  exact ⟨htagged _ hboth.1, htagged _ hboth.2⟩

lemma Holding.add (h : Holding n F kept others z) (hr : isConstraint n r = true)
    (he : e.At (z ++ [r]) n) (hid : r.id = e.id) :
    Holding n F (kept ++ [e]) others (z ++ [r]) := by
  refine ⟨(frame_append hr).trans h.frame, fun e' he' => ?_, fun q hq hconstraint => ?_⟩
  · rcases List.mem_append.mp he' with he' | he'
    · exact (h.present e' he').append
    · exact List.mem_singleton.mp he' ▸ he
  · rw [List.map_append, List.mem_append]
    rcases List.mem_append.mp hq with hq | hq
    · exact (h.constraints q hq hconstraint).imp_left .inl
    · rw [List.mem_singleton.mp hq, hid]
      exact .inl (.inr (List.mem_singleton_self _))

lemma Holding.skip {id : String} (h : Holding n F kept (id :: others) z)
    (hskip : ∀ r ∈ z, isConstraint n r = true → r.id = id → r.id ∈ kept.map Entry.id) :
    Holding n F kept others z := by
  refine ⟨h.frame, h.present, fun r hr hconstraint => ?_⟩
  rcases h.constraints r hr hconstraint with hid | hid
  · exact .inl hid
  · exact (List.mem_cons.mp hid).imp_left (hskip r hr hconstraint)

lemma Holding.drop (hz : z.Distinct) (h : Holding n F kept (r.id :: others) z) (hr : r ∈ z)
    (hconstraint : isConstraint n r = true) (hkept : ∀ e ∈ kept, e.id ≠ r.id) :
    Holding n F kept others (z.filter (·.id ≠ r.id)) := by
  refine ⟨(frame_filter hz hr hconstraint).trans h.frame, fun e he => ?_, fun q hq hqc => ?_⟩
  · exact (h.present e he).mono fun q hq hid =>
      List.mem_filter.mpr ⟨hq, decide_eq_true (hid.trans_ne (hkept e he))⟩
  · obtain ⟨hqz, hqid⟩ := List.mem_filter.mp hq
    refine (h.constraints q hqz hqc).imp_right fun hid => ?_
    exact (List.mem_cons.mp hid).resolve_left (of_decide_eq_true hqid)

end Entries

/-- The guard adopted for a tag: one that is there, or none because none is. -/
def Slot (provider : Provider) (z : Zone) (n : Caa.Name) (tag : Tag) : Option String → Prop
  | some id => (guardEntry provider tag id).At z n
  | none => ∀ r ∈ z, labels r.name = n → ∀ p, r.data = .caa p → p.tag = tag →
      isCaaGuard (renderCaa provider p) = false

lemma Slot.append {slot : Option String}
    (h : Slot provider z n tag slot) (hdata : r.data = .caa p)
    (htag : p.tag ≠ tag) : Slot provider (z ++ [r]) n tag slot := by
  cases slot with
  | some id => exact Entry.At.append h
  | none =>
    intro q hq hn p' hdata' htag'
    rcases List.mem_append.mp hq with hq | hq
    · exact h q hq hn p' hdata' htag'
    · rw [List.mem_singleton.mp hq, hdata] at hdata'
      cases hdata'
      exact absurd htag' htag

-- == one base name

lemma render_caa (h : (render provider r).type = "CAA") :
    ∃ p, r.data = .caa p ∧ (render provider r).content = renderCaa provider p := by
  cases hdata : r.data with
  | caa p => exact ⟨p, rfl, by simp [render, hdata]⟩
  | other type content notCaa =>
    simp only [render, hdata] at h
    exact absurd h notCaa

lemma tag_eq_of_text {t t' : Tag} (h : t.text.toList = t'.text.toList) : t = t' := by
  cases t
  cases t'
  simp only [Tag.mk.injEq]
  exact String.toList_inj.mp h

def isGuardOf (tag : Tag) (record : Record) : Bool :=
  record.type = "CAA" && isCaaGuard record.content
    && decide (caaTag record.content = some tag.text.toList)

lemma isGuardOf_render :
    isGuardOf tag (render provider r) = true
      ↔ ∃ p, r.data = .caa p ∧ p.tag = tag ∧ isCaaGuard (renderCaa provider p) = true := by
  rw [isGuardOf, Bool.and_eq_true, Bool.and_eq_true, decide_eq_true_eq, decide_eq_true_eq]
  constructor
  · rintro ⟨⟨htype, hguard⟩, htag⟩
    obtain ⟨p, hdata, hcontent⟩ := render_caa htype
    rw [hcontent] at hguard htag
    rw [caaTag_renderCaa, Option.some.injEq] at htag
    exact ⟨p, hdata, tag_eq_of_text htag, hguard⟩
  · rintro ⟨p, hdata, rfl, hguard⟩
    simp only [render, hdata, hguard, caaTag_renderCaa, and_self]

lemma adopt_eq (adopted : Adopted) (record : Record) :
    adopt adopted record
      = ⟨adopted.issue.or (if isGuardOf .issue record then some record.id else none),
         adopted.issuewild.or (if isGuardOf .issuewild record then some record.id else none)⟩ := by
  rw [adopt]
  split
  next hskip =>
    have hno : ∀ tag, isGuardOf tag record = false := by
      intro tag
      rcases hskip with h | h <;> simp [isGuardOf, h]
    simp [hno]
  next hguard =>
    obtain ⟨htype, hguard⟩ := not_or.mp hguard
    rw [not_not] at htype
    rw [Bool.not_eq_false] at hguard
    have hof : ∀ tag, isGuardOf tag record
        = decide (caaTag record.content = some tag.text.toList) := by
      intro tag
      simp [isGuardOf, htype, hguard]
    rw [hof, hof]
    split
    next hissue => simp [hissue, Tag.issue, Tag.issuewild]
    next hissue =>
      split
      next hwild => simp [hwild, Tag.issue, Tag.issuewild]
      next hwild =>
        have h1 : caaTag record.content ≠ some Tag.issue.text.toList := hissue
        have h2 : caaTag record.content ≠ some Tag.issuewild.text.toList := hwild
        simp only [h1, h2, decide_false, Bool.false_eq_true, if_false, Option.or_none]

lemma foldl_adopt (listing : List Record) (adopted : Adopted) :
    listing.foldl adopt adopted
      = ⟨adopted.issue.or ((listing.find? (isGuardOf .issue)).map Record.id),
         adopted.issuewild.or ((listing.find? (isGuardOf .issuewild)).map Record.id)⟩ := by
  induction listing generalizing adopted with
  | nil => simp
  | cons record listing ih =>
    rw [List.foldl_cons, ih, adopt_eq, List.find?_cons, List.find?_cons]
    cases isGuardOf .issue record <;> cases isGuardOf .issuewild record <;> simp

lemma slot_of_find {listing : List Record} (h : Lists provider z name listing) (tag : Tag) :
    Slot provider z (labels name) tag ((listing.find? (isGuardOf tag)).map Record.id) := by
  cases hfind : listing.find? (isGuardOf tag) with
  | some l =>
    obtain ⟨r, hr, hat, hl⟩ := (h.mem l).mp (List.mem_of_find?_eq_some hfind)
    have hguard := List.find?_some hfind
    subst hl
    exact ⟨r, hr, (render_id provider r).symm, of_decide_eq_true hat, isGuardOf_render.mp hguard⟩
  | none =>
    intro r hr hn p hdata htag
    have hl := (h.mem (render provider r)).mpr ⟨r, hr, decide_eq_true hn, rfl⟩
    have hno := List.find?_eq_none.mp hfind _ hl
    rw [Bool.not_eq_true] at hno
    cases hguard : isCaaGuard (renderCaa provider p) with
    | false => rfl
    | true =>
      rw [isGuardOf_render.mpr ⟨p, hdata, htag, hguard⟩] at hno
      cases hno

lemma issuer_isConstraint {id value : String} (htag : tag = .issue ∨ tag = .issuewild) :
    isConstraint (labels name) ⟨id, name, .caa ⟨0, tag, value⟩⟩ = true :=
  Tagged.isConstraint ⟨rfl, _, rfl, rfl⟩ htag

lemma setGuard_spec (htag : tag = .issue ∨ tag = .issuewild) {slot : Option String}
    (hR : ∀ z, R z → (tag = .issuewild → ∃ r ∈ z, Tagged (labels name) .issue r)
      ∧ ∀ id, R (z ++ [⟨id, name, .caa ⟨0, tag, ";"⟩⟩])) :
    Does fate content (fun z => R z ∧ Slot provider z (labels name) tag slot)
      (setGuard provider fate name tag slot)
      fun g z => R z ∧ (guardEntry provider tag g).At z (labels name) := by
  cases slot with
  | some id => exact .pure fun _ _ h => h
  | none =>
    refine add_spec ?_
    rintro z hz ⟨hRz, hslot⟩
    obtain ⟨hissue, hadd⟩ := hR z hRz
    refine ⟨fun r hr => ?_, fun id => ⟨?_, hadd id, _, List.mem_append_right _
      (List.mem_singleton_self _), rfl, rfl, _, rfl, rfl, guard_isGuard provider htag⟩⟩
    · rw [isDuplicate, decide_eq_false_iff_not]
      rintro ⟨hat, hdata⟩
      have hno := hslot r hr (of_decide_eq_true hat) _ hdata rfl
      rw [guard_isGuard provider htag] at hno
      cases hno
    · rcases htag with rfl | rfl
      · exact .guardIssue
      · exact .guardWild (hissue rfl)

variable {g0 g1 : String} {F : Zone}

def guards (provider : Provider) (g0 g1 : String) : List Entry :=
  [guardEntry provider .issue g0, guardEntry provider .issuewild g1]

lemma guards_both : Both (guards provider g0 g1) := by simp [Both, guards, guardEntry]

/-- The records `rest` of the listing are still to be looked at. -/
structure Clearing (provider : Provider) (name g0 g1 : String) (F : Zone) (rest : List Record)
    (z : Zone) : Prop where
  holding : Holding (labels name) F (guards provider g0 g1) (rest.map Record.id) z
  listed : ∀ l ∈ rest, ∃ r ∈ z, isAt name r = true ∧ render provider r = l
  nodup : (rest.map Record.id).Nodup

lemma Clearing.skip {l : Record} {rest : List Record}
    (h : Clearing provider name g0 g1 F (l :: rest) z)
    (hskip : ∀ r ∈ z, isConstraint (labels name) r = true → r.id = l.id →
      r.id ∈ (guards provider g0 g1).map Entry.id) : Clearing provider name g0 g1 F rest z :=
  ⟨h.holding.skip hskip, fun l' hl' => h.listed l' (List.mem_cons_of_mem _ hl'),
    (List.nodup_cons.mp h.nodup).2⟩

lemma isIssuerRecord_render :
    isIssuerRecord (render provider r) = true ↔ hasIssuerTag r = true := by
  rw [isIssuerRecord, Bool.and_eq_true, decide_eq_true_eq, hasIssuerTag_iff]
  constructor
  · rintro ⟨htype, htag⟩
    obtain ⟨p, hdata, hcontent⟩ := render_caa htype
    rw [hcontent, caaTag_renderCaa] at htag
    simp only [Option.any_some, isIssuerTag, decide_eq_true_eq] at htag
    refine ⟨p, hdata, ?_⟩
    rcases htag with htag | htag
    · exact .inl (tag_eq_of_text htag)
    · exact .inr (tag_eq_of_text htag)
  · rintro ⟨p, hdata, htag⟩
    simp only [render, hdata, true_and]
    rw [caaTag_renderCaa]
    rcases htag with htag | htag <;> rw [htag] <;> rfl

lemma removeConstraint_spec (l : Record) (rest : List Record) :
    Does fate content (Clearing provider name g0 g1 F (l :: rest))
      (removeConstraint fate g0 g1 l) fun _ => Clearing provider name g0 g1 F rest := by
  rw [removeConstraint]
  split
  next hguard =>
    refine .pure fun z hz h => h.skip fun r hr hconstraint hid => ?_
    rw [hid]
    rcases hguard with hguard | hguard <;> simp [guards, guardEntry, hguard]
  next hguard =>
    split
    next hissuer =>
      refine remove_spec fun z hz h => ?_
      obtain ⟨r, hr, hat, rfl⟩ := h.listed l (List.mem_cons_self ..)
      have hholding := h.holding
      rw [render_id] at hguard ⊢
      rw [List.map_cons, render_id] at hholding
      have hconstraint : isConstraint (labels name) r = true :=
        Bool.and_eq_true_iff.mpr ⟨hat, isIssuerRecord_render.mp hissuer⟩
      have hdropped := hholding.drop hz hr hconstraint fun e he hid => by
        simp only [guards, List.mem_cons, List.not_mem_nil, or_false] at he
        rcases he with rfl | rfl
        · exact hguard (.inl hid.symm)
        · exact hguard (.inr hid.symm)
      refine ⟨⟨r, hr, rfl⟩, .drop hz hr hconstraint (guards_both.hasBoth hdropped.present),
        hdropped, fun l' hl' => ?_, (List.nodup_cons.mp h.nodup).2⟩
      obtain ⟨q, hq, hqat, rfl⟩ := h.listed l' (List.mem_cons_of_mem _ hl')
      refine ⟨q, (hz.mem_drop hr).mpr ⟨hq, ?_⟩, hqat, rfl⟩
      rintro rfl
      exact (List.nodup_cons.mp h.nodup).1 (List.mem_map_of_mem hl')
    next hissuer =>
      refine .pure fun z hz h => h.skip fun r hr hconstraint hid => ?_
      -- a record that was passed over restricts nothing
      obtain ⟨q, hq, -, rfl⟩ := h.listed l (List.mem_cons_self ..)
      obtain rfl : r = q := hz.eq hr hq (hid.trans (render_id provider q))
      exact absurd (isIssuerRecord_render.mpr (isConstraint_hasIssuerTag hconstraint)) hissuer

lemma addOwn_spec {kept : List Entry} (htag : tag = .issue ∨ tag = .issuewild)
    (hboth : Both kept) (hnew : ∀ e ∈ kept, tag = e.tag → ¬e.meets ⟨0, tag, client.content⟩) :
    Does fate client.content (Holding (labels name) F kept [])
      (addCaaRecord provider fate name 0 tag client.content)
      fun id => Holding (labels name) F (kept ++ [ownEntry client tag id]) [] := by
  refine add_spec fun z hz h =>
    ⟨fun r hr => ?_, fun id => ⟨.own htag (hboth.hasBoth h.present), ?_⟩⟩
  · -- our own record is not there yet: none of the records kept says this
    rw [isDuplicate, decide_eq_false_iff_not]
    rintro ⟨hat, hdata⟩
    have hn := of_decide_eq_true hat
    have hown : (ownEntry client tag r.id).At z (labels name) :=
      ⟨r, hr, rfl, hn, _, hdata, rfl, rfl⟩
    have htagged : Tagged (labels name) tag r := ⟨hn, _, hdata, rfl⟩
    have hid := (h.constraints r hr (htagged.isConstraint htag)).resolve_right List.not_mem_nil
    obtain ⟨e, he, hid⟩ := List.mem_map.mp hid
    refine hown.id_ne hz (h.present e he) (fun htags => ?_) hid.symm
    rintro _ rfl
    exact hnew e he htags
  · exact h.add (issuer_isConstraint htag)
      ⟨_, List.mem_append_right _ (List.mem_singleton_self _), rfl, rfl, _, rfl, rfl, rfl⟩ rfl

lemma removeKept_spec {e : Entry} {kept : List Entry} (htag : e.tag = .issue ∨ e.tag = .issuewild)
    (hboth : Both kept) (hne : ∀ e' ∈ kept, e'.tag = e.tag → ∀ p, e'.meets p → ¬e.meets p) :
    Does fate content (Holding n F (e :: kept) []) (removeRecord fate e.id)
      fun _ => Holding n F kept [] := by
  refine remove_spec fun z hz h => ?_
  have he := h.present e (List.mem_cons_self ..)
  have hkept : ∀ e' ∈ kept, e'.At z n := fun e' he' => h.present e' (List.mem_cons_of_mem _ he')
  obtain ⟨r, hr, hid, htagged⟩ := he.tagged
  have hconstraint := htagged.isConstraint htag
  have hholding : Holding n F kept [r.id] z := by
    refine ⟨h.frame, hkept, fun q hq hqc => ?_⟩
    have hq := (h.constraints q hq hqc).resolve_right List.not_mem_nil
    rw [hid, List.mem_singleton]
    exact (List.mem_cons.mp hq).symm
  have hdropped := hholding.drop hz hr hconstraint fun e' he' =>
    hid ▸ (hkept e' he').id_ne hz he (hne e' he')
  rw [← hid]
  exact ⟨⟨r, hr, rfl⟩, .drop hz hr hconstraint (hboth.hasBoth hdropped.present), hdropped⟩

/-- The name has this account's two records and nothing else that restricts. -/
def Done (client : AcmeClient) (n : Caa.Name) (z : Zone) : Prop :=
  ∃ i0 i1, Holding n (frame n z) [ownEntry client .issue i0, ownEntry client .issuewild i1] [] z

lemma setGuards_spec :
    Does fate content (frame (labels name) · = F) (setGuards provider fate name)
      fun g z => frame (labels name) z = F
        ∧ ∀ e ∈ guards provider g.1 g.2, e.At z (labels name) := by
  unfold setGuards
  refine getRecords_spec.bind fun listing => ?_
  simp only [foldl_adopt, Option.none_or]
  generalize hwild : (listing.find? (isGuardOf .issuewild)).map Record.id = wild
  refine .bind (S := fun g0 z =>
    (frame (labels name) z = F ∧ Slot provider z (labels name) .issuewild wild)
    ∧ (guardEntry provider .issue g0).At z (labels name)) ?_ fun g0 => ?_
  · refine (setGuard_spec (.inl rfl) ?_).pre ?_
    · rintro z ⟨hF, hslot⟩
      exact ⟨nofun, fun id => ⟨(frame_append (issuer_isConstraint (.inl rfl))).trans hF,
        hslot.append rfl (by decide)⟩⟩
    · rintro z - ⟨hF, hlists⟩
      exact ⟨⟨hF, hwild ▸ slot_of_find hlists _⟩, slot_of_find hlists _⟩
  refine .bind (S := fun g1 z =>
    (frame (labels name) z = F ∧ (guardEntry provider .issue g0).At z (labels name))
    ∧ (guardEntry provider .issuewild g1).At z (labels name)) ?_ fun g1 => ?_
  · refine (setGuard_spec (.inr rfl) ?_).pre fun z _ h => ⟨⟨h.1.1, h.2⟩, h.1.2⟩
    rintro z ⟨hF, hguard⟩
    obtain ⟨r, hr, -, htagged⟩ := hguard.tagged
    exact ⟨fun _ => ⟨r, hr, htagged⟩, fun id =>
      ⟨(frame_append (issuer_isConstraint (.inr rfl))).trans hF, hguard.append⟩⟩
  refine .pure ?_
  rintro z - ⟨⟨hF, hguard0⟩, hguard1⟩
  exact ⟨hF, by simp [guards, hguard0, hguard1]⟩

lemma replaceGuards_spec :
    Does fate client.content (Holding (labels name) F (guards provider g0 g1) [])
      (replaceGuards provider fate client.content name g0 g1)
      fun _ z => frame (labels name) z = F ∧ Done client (labels name) z := by
  have htags : Tag.issue ≠ Tag.issuewild := by decide
  unfold replaceGuards
  refine (addOwn_spec (.inl rfl) guards_both ?_).bind fun i0 => ?_
  · simp [guards, guardEntry, content_isNoGuard]
  refine (addOwn_spec (.inr rfl) ?_ ?_).bind fun i1 => ?_
  · simp [Both, guards, guardEntry]
  · simp [guards, guardEntry, ownEntry, content_isNoGuard, htags.symm]
  refine .bind (removeKept_spec (e := guardEntry provider .issue g0) (.inl rfl) ?_ ?_) fun _ => ?_
  · simp [Both, guardEntry, ownEntry]
  · simp [guardEntry, ownEntry, content_isNoGuard, htags.symm]
  refine (removeKept_spec (e := guardEntry provider .issuewild g1) (.inr rfl) ?_ ?_).post ?_
  · simp [Both, ownEntry]
  · simp [guardEntry, ownEntry, content_isNoGuard, htags]
  · exact fun _ z _ h => ⟨h.frame, i0, i1, h.frame.symm ▸ h⟩

lemma setCaaRecord_spec :
    Does fate client.content (frame (labels name) · = F)
      (setCaaRecord provider fate client.content name)
      fun _ z => frame (labels name) z = F ∧ Done client (labels name) z := by
  unfold setCaaRecord
  refine setGuards_spec.bind fun g => getRecords_spec.bind fun listing => ?_
  refine .bind ((Does.each (I := Clearing provider name g.1 g.2 F) removeConstraint_spec
    listing).pre ?_) fun _ => replaceGuards_spec.pre fun _ _ h => h.holding
  rintro z hz ⟨⟨hF, hguards⟩, hlists⟩
  refine ⟨⟨hF, hguards, fun r hr hconstraint => .inr ?_⟩, fun l hl => (hlists.mem l).mp hl,
    hlists.nodup⟩
  have hl := (hlists.mem _).mpr ⟨r, hr, (Bool.and_eq_true_iff.mp hconstraint).1, rfl⟩
  rw [← render_id provider]
  exact List.mem_map_of_mem hl

-- == all names

/-- The zone without what restricts at one of the names. -/
def untouched (names : List String) (z : Zone) : Zone :=
  z.filter fun r => !names.any fun name => isConstraint (labels name) r

lemma untouched_eq_frame {names : List String} (hname : name ∈ names)
    (z : Zone) : untouched names z = untouched names (frame (labels name) z) := by
  rw [untouched, untouched, frame, List.filter_filter]
  refine List.filter_congr fun r _ => ?_
  cases hr : isConstraint (labels name) r with
  | false => simp
  | true =>
    have hany : names.any (fun name => isConstraint (labels name) r) = true :=
      List.any_eq_true.mpr ⟨name, hname, hr⟩
    simp [hany]

lemma Done.of_frame {m : Caa.Name} (hframe : frame n z' = frame n z) (hm : m ≠ n)
    (h : Done client m z) : Done client m z' := by
  have hmem : ∀ {r : Stored}, labels r.name = m → (r ∈ z' ↔ r ∈ z) := by
    intro r hr
    have hno : isConstraint n r = false := by
      rw [← Bool.not_eq_true]
      exact fun hc => hm (hr.symm.trans (isConstraint_labels hc))
    have hiff : ∀ {y : Zone}, r ∈ frame n y ↔ r ∈ y := by
      intro y
      simp [frame, List.mem_filter, hno]
    rw [← hiff, hframe, hiff]
  obtain ⟨i0, i1, h⟩ := h
  refine ⟨i0, i1, rfl, fun e he => ?_, fun r hr hrc => ?_⟩
  · obtain ⟨r, hr, hid, hn, hmeets⟩ := h.present e he
    exact ⟨r, (hmem hn).mpr hr, hid, hn, hmeets⟩
  · exact h.constraints r ((hmem (isConstraint_labels hrc)).mp hr) hrc

lemma setNames_spec (names : List String) (U : Zone) :
    Does fate client.content (untouched names · = U)
      (each (setCaaRecord provider fate client.content) names)
      fun _ z => untouched names z = U ∧ ∀ name ∈ names, Done client (labels name) z := by
  refine (Does.each (I := fun rest z => (∀ name ∈ rest, name ∈ names)
    ∧ untouched names z = U ∧ ∀ name ∈ names, name ∈ rest ∨ Done client (labels name) z)
    ?_ names).conseq ?_ ?_
  · refine fun name rest => .at ?_
    rintro z - ⟨hrest, hU, hdone⟩
    have hname : name ∈ names := hrest name (List.mem_cons_self ..)
    refine (setCaaRecord_spec (F := frame (labels name) z)).conseq (fun _ _ h => h ▸ rfl) ?_
    rintro _ z' - ⟨hframe, hnew⟩
    refine ⟨fun n hn => hrest n (List.mem_cons_of_mem _ hn), ?_, fun n hn => ?_⟩
    · rw [untouched_eq_frame hname, hframe, ← untouched_eq_frame hname, hU]
    · by_cases hsame : labels n = labels name
      · exact .inr (hsame ▸ hnew)
      · rcases hdone n hn with h | h
        · rcases List.mem_cons.mp h with rfl | h
          · exact absurd rfl hsame
          · exact .inl h
        · exact .inr (h.of_frame hframe hsame)
  · exact fun z _ hU => ⟨fun _ h => h, hU, fun _ h => .inl h⟩
  · exact fun _ z _ h => ⟨h.2.1, fun name hname =>
      (h.2.2 name hname).resolve_left List.not_mem_nil⟩

lemma setCaaRecords_spec (provider : Provider) (fate : Nat → Answer)
    (hclient : client.validation = .dns01) (domains : List String) (U : Zone) :
    Does fate client.content (untouched (baseNames domains) · = U)
      (setCaaRecords provider fate client domains)
      fun _ z => untouched (baseNames domains) z = U
        ∧ ∀ name ∈ baseNames domains, Done client (labels name) z := by
  rw [setCaaRecords, Result.ensure, if_pos hclient]
  exact setNames_spec _ U

end Program

-- == the runs

section Runs

variable {provider : Provider} {fate : Nat → Answer} {client : AcmeClient} {start : Zone}

lemma setCaaRecords_traced (provider : Provider) (fate : Nat → Answer)
    (hclient : client.validation = .dns01) (domains : List String)
    (h : Traced start client.content s) :
    Traced start client.content (setCaaRecords provider fate client domains s).2
      ∧ ((∀ i, s.calls ≤ i → fate i = .answered) →
        ∃ s', setCaaRecords provider fate client domains s = (.ok (), s')
          ∧ untouched (baseNames domains) s'.zone = untouched (baseNames domains) s.zone
          ∧ ∀ name ∈ baseNames domains, Done client (labels name) s'.zone) := by
  have hrun := setCaaRecords_spec provider fate hclient domains _ start s.calls s
    ⟨h, Nat.le_refl _, rfl⟩
  rcases hr : setCaaRecords provider fate client domains s with ⟨r, s'⟩
  rw [hr] at hrun
  cases r with
  | ok u =>
    obtain ⟨htraced, -, hU, hdone⟩ := hrun
    exact ⟨htraced, fun _ => ⟨s', rfl, hU, hdone⟩⟩
  | error e =>
    obtain ⟨htraced, i, hi, hfault⟩ := hrun
    exact ⟨htraced, fun hall => absurd (hall i hi) hfault⟩

lemma setCaaRecords_unwritable (hclient : client.validation ≠ .dns01) (domains : List String)
    (s : Dns) : (setCaaRecords provider fate client domains s).2 = s := by
  rw [setCaaRecords, Result.ensure, if_neg hclient]
  rfl

lemma runs_traced (domainLists : List (List String)) (h : Traced start client.content s) :
    Traced start client.content (runs provider fate client s domainLists) := by
  induction domainLists generalizing s with
  | nil => exact h
  | cons domains domainLists ih =>
    have hstep : Traced start client.content
        (setCaaRecords provider fate client domains s).2 := by
      by_cases hclient : client.validation = .dns01
      · exact (setCaaRecords_traced provider fate hclient domains h).1
      · rw [setCaaRecords_unwritable hclient]
        exact h
    exact ih hstep

lemma start_traced {zone : Zone} (h : zone.Distinct) :
    Traced zone content (Dns.start zone) :=
  ⟨h, ⟨[], rfl⟩, .singleton _, [], rfl⟩

lemma Traced.pairwise {R : Zone → Zone → Prop} [IsTrans Zone R] (h : Traced start content s)
    (hmove : ∀ {z z'}, Move content z z' → R z' z) : s.moments.Pairwise R :=
  (h.moves.imp fun _ _ => hmove).pairwise

lemma Traced.since_start {R : Zone → Zone → Prop} [IsTrans Zone R] (h : Traced start content s)
    (hmove : ∀ {z z'}, Move content z z' → R z' z) : ∀ z ∈ s.moments, R z start := by
  intro z hz
  have hpairs := h.pairwise hmove
  obtain ⟨later, hlater⟩ := h.oldest
  rw [hlater] at hz hpairs
  rcases List.mem_append.mp hz with hz | hz
  · exact (List.pairwise_append.mp hpairs).2.2 z hz start (List.mem_singleton_self _)
  · rw [List.mem_singleton.mp hz]
    exact hmove .same

lemma Traced.permits (h : Traced start content s) :
    ∀ z ∈ s.moments, ∀ k g n, Permits (rrset z) k g n →
      Permits (rrset start) k g n ∨ grantOf content = some g := by
  let Opens (later earlier : Zone) : Prop := ∀ k g n, Permits (rrset later) k g n →
    Permits (rrset earlier) k g n ∨ grantOf content = some g
  have : IsTrans Zone Opens :=
    ⟨fun _ _ _ h₁ h₂ k g n hg => (h₁ k g n hg).elim (h₂ k g n) .inr⟩
  exact h.since_start Move.permits

lemma Traced.hasBoth (h : Traced start content s) :
    s.moments.Pairwise fun later earlier => ∀ n, HasBoth earlier n → HasBoth later n := by
  have : IsTrans Zone fun later earlier => ∀ n, HasBoth earlier n → HasBoth later n :=
    ⟨fun _ _ _ h₁ h₂ n hn => h₁ n (h₂ n hn)⟩
  exact h.pairwise fun hmove _ => hmove.hasBoth

lemma Traced.rest (h : Traced start content s) :
    s.zone.filter (fun r => !hasIssuerTag r) = start.filter fun r => !hasIssuerTag r := by
  have : IsTrans Zone fun later earlier =>
      later.filter (fun r => !hasIssuerTag r) = earlier.filter fun r => !hasIssuerTag r :=
    ⟨fun _ _ _ h₁ h₂ => h₁.trans h₂⟩
  obtain ⟨earlier, hlatest⟩ := h.latest
  exact h.since_start Move.rest _ (hlatest ▸ List.mem_cons_self ..)

/-- The name has one `issue` and one `issuewild` record, with this
content. -/
def OneOfEach (content : String) (z : Zone) (n : Caa.Name) : Prop :=
  ∀ tag ∈ [Tag.issue, .issuewild], ∃ r ∈ z, labels r.name = n
    ∧ r.data = .caa ⟨0, tag, content⟩
    ∧ ∀ q ∈ z, labels q.name = n → ∀ p, q.data = .caa p → p.tagIs tag = true → q = r

/-- Every tag at the name that reads as `issue` or `issuewild` is in lower
case. -/
def LowerCase (z : Zone) (n : Caa.Name) : Prop :=
  ∀ r ∈ z, labels r.name = n → ∀ p, r.data = .caa p →
    p.tagIs .issue = true ∨ p.tagIs .issuewild = true → p.tag = .issue ∨ p.tag = .issuewild

lemma lowerCase_congr
    (h : z'.filter (fun r => !hasIssuerTag r) = z.filter fun r => !hasIssuerTag r) :
    LowerCase z n → LowerCase z' n := by
  intro hz r hr hn p hdata htag
  by_cases hissuer : hasIssuerTag r = true
  · obtain ⟨p', hdata', htag'⟩ := hasIssuerTag_iff.mp hissuer
    rw [hdata] at hdata'
    cases hdata'
    exact htag'
  · have hmem : r ∈ z'.filter fun r => !hasIssuerTag r :=
      List.mem_filter.mpr ⟨hr, by simpa using hissuer⟩
    rw [h] at hmem
    exact hz r (List.mem_filter.mp hmem).1 hn p hdata htag

lemma Done.oneOfEach_iff (hz : z.Distinct) (h : Done client n z) :
    OneOfEach client.content z n ↔ LowerCase z n := by
  obtain ⟨i0, i1, h⟩ := h
  obtain ⟨a, ha, ha', hna, _, hda, -, rfl⟩ := h.present (ownEntry client .issue i0) (by simp)
  obtain ⟨b, hb, hb', hnb, _, hdb, -, rfl⟩ := h.present (ownEntry client .issuewild i1) (by simp)
  constructor
  · intro hone r hr hn p hdata htag
    rcases htag with htag | htag
    · obtain ⟨q, -, -, hq, hunique⟩ := hone .issue (by simp)
      rw [hunique r hr hn p hdata htag, hq] at hdata
      cases hdata
      exact .inl rfl
    · obtain ⟨q, -, -, hq, hunique⟩ := hone .issuewild (by simp)
      rw [hunique r hr hn p hdata htag, hq] at hdata
      cases hdata
      exact .inr rfl
  · intro hlower tag htag
    have hours : ∀ q ∈ z, labels q.name = n → ∀ p, q.data = .caa p →
        p.tag = .issue ∨ p.tag = .issuewild → q = a ∨ q = b := by
      intro q hq hn p hdata htag
      have htagged : Tagged n p.tag q := ⟨hn, p, hdata, rfl⟩
      have hid := h.constraints q hq (htagged.isConstraint htag)
      simp only [List.map_cons, List.map_nil, List.mem_cons, List.not_mem_nil, or_false] at hid
      rcases hid with hid | hid
      · exact .inl (hz.eq hq ha (hid.trans ha'.symm))
      · exact .inr (hz.eq hq hb (hid.trans hb'.symm))
    simp only [List.mem_cons, List.not_mem_nil, or_false] at htag
    rcases htag with rfl | rfl
    · refine ⟨a, ha, hna, hda, fun q hq hn p hdata hp => ?_⟩
      rcases hours q hq hn p hdata (hlower q hq hn p hdata (.inl hp)) with rfl | rfl
      · rfl
      · rw [hdb] at hdata
        cases hdata
        exact absurd (of_decide_eq_true hp)
          (by decide : lower Tag.issuewild.text ≠ lower Tag.issue.text)
    · refine ⟨b, hb, hnb, hdb, fun q hq hn p hdata hp => ?_⟩
      rcases hours q hq hn p hdata (hlower q hq hn p hdata (.inr hp)) with rfl | rfl
      · rw [hda] at hdata
        cases hdata
        exact absurd (of_decide_eq_true hp)
          (by decide : lower Tag.issue.text ≠ lower Tag.issuewild.text)
      · rfl

/-- Runs that end at whatever call never open the zone, and never leave a
name without the two constraints once it had them. A run without a further
fault then succeeds, touches no other record, and leaves one record of each
kind exactly if the zone had none whose tag is in another case. -/
theorem caa_rewrite_closed (provider : Provider) (fate : Nat → Answer) (client : AcmeClient)
    (zone : Zone) (hzone : zone.Distinct) (interrupted : List (List String)) :
    let s := runs provider fate client (Dns.start zone) interrupted
    (∀ z ∈ s.moments, ∀ k g n, Permits (rrset z) k g n →
      Permits (rrset zone) k g n ∨ grantOf client.content = some g)
    ∧ s.moments.Pairwise (fun later earlier => ∀ n, HasBoth earlier n → HasBoth later n)
    ∧ ∀ domains, client.validation = .dns01 → (∀ i, s.calls ≤ i → fate i = .answered) →
        ∃ s', setCaaRecords provider fate client domains s = (.ok (), s')
          ∧ untouched (baseNames domains) s'.zone = untouched (baseNames domains) s.zone
          ∧ ((∀ name ∈ baseNames domains, OneOfEach client.content s'.zone (labels name))
            ↔ ∀ name ∈ baseNames domains, LowerCase zone (labels name)) := by
  intro s
  have htraced : Traced zone client.content s := runs_traced interrupted (start_traced hzone)
  refine ⟨htraced.permits, htraced.hasBoth, fun domains hclient hall => ?_⟩
  obtain ⟨htraced', hrun⟩ := setCaaRecords_traced provider fate hclient domains htraced
  obtain ⟨s', heq, hU, hdone⟩ := hrun hall
  rw [heq] at htraced'
  refine ⟨s', heq, hU, forall₂_congr fun name hname => ?_⟩
  rw [(hdone name hname).oneOfEach_iff htraced'.distinct]
  exact ⟨lowerCase_congr htraced'.rest.symm, lowerCase_congr htraced'.rest⟩

end Runs

/-- A provider that lists records as they came, gives each an identifier
longer than all before, and refuses duplicates. -/
def plainProvider : Provider where
  order _ rs := rs
  order_perm _ rs := .refl rs
  newId _ z := String.ofList (z.foldr (fun r cs => 'r' :: (r.id.toList ++ cs)) ['r'])
  newId_fresh _ z := by
    have hlong : ∀ r ∈ z,
        r.id.length < (z.foldr (fun r cs => 'r' :: (r.id.toList ++ cs)) ['r']).length := by
      induction z with
      | nil => exact fun r hr => absurd hr List.not_mem_nil
      | cons r z ih =>
        intro q hq
        rw [List.foldr_cons, List.length_cons, List.length_append, String.length_toList]
        rcases List.mem_cons.mp hq with rfl | hq
        · omega
        · have := ih q hq
          omega
    intro hmem
    obtain ⟨r, hr, hid⟩ := List.mem_map.mp hmem
    have := hlong r hr
    rw [hid, String.length_ofList] at this
    omega
  rejectsDuplicates := true
  quote v := "\"" ++ v ++ "\""
  quote_semicolon := .inl rfl
  quote_letters v c hc _ := by
    rw [String.toList_append, String.toList_append]
    exact List.mem_append_left _ (List.mem_append_right _ hc)

def plainClient : AcmeClient := ⟨.dns01, "letsencrypt.org", "https://acme/acct/1"⟩

/-- A record that a certification authority honours as `issue`. -/
def mixedCaseTag : Stored :=
  ⟨"1", "example.com", .caa ⟨0, ⟨"Issue", by decide, List.all_eq_true.mp rfl⟩, "evil.example"⟩⟩

/-- The run succeeds and leaves another authority in place: the client compares
tags with their case. -/
theorem mixed_case_tag_survives :
    ∃ s', setCaaRecords plainProvider (fun _ => .answered) plainClient ["example.com"]
        (Dns.start [mixedCaseTag]) = (.ok (), s')
      ∧ mixedCaseTag ∈ s'.zone
      ∧ ¬OneOfEach plainClient.content s'.zone (labels "example.com") := by
  have hstart : Traced [mixedCaseTag] plainClient.content (Dns.start [mixedCaseTag]) :=
    start_traced (List.nodup_singleton _)
  obtain ⟨htraced, hrun⟩ := setCaaRecords_traced plainProvider (fun _ => .answered)
    rfl ["example.com"] hstart
  obtain ⟨s', heq, -, hdone⟩ := hrun fun _ _ => rfl
  rw [heq] at htraced
  have hmem : mixedCaseTag ∈ s'.zone.filter fun r => !hasIssuerTag r := by
    rw [htraced.rest]
    decide
  have hthere : mixedCaseTag ∈ s'.zone := (List.mem_filter.mp hmem).1
  refine ⟨s', heq, hthere, fun hone => ?_⟩
  have hlower := ((hdone "example.com" (by decide)).oneOfEach_iff htraced.distinct).mp hone
  exact absurd (hlower mixedCaseTag hthere rfl _ rfl (.inl (by decide))) (by decide)

/-- The first run loses the answer to its third call, the second succeeds. -/
theorem caa_rewrite_after_lost_answer :
    let fate : Nat → Answer := fun i => if i = 2 then .lost "timed out" else .answered
    let zone : Zone := [⟨"1", "example.com", .caa ⟨0, .issue, "other.example"⟩⟩]
    let s := runs plainProvider fate plainClient (Dns.start zone) [["*.example.com"]]
    s.calls = 3
      ∧ ∃ s', setCaaRecords plainProvider fate plainClient ["example.com"] s = (.ok (), s')
      ∧ OneOfEach plainClient.content s'.zone (labels "example.com") := by
  intro fate zone s
  have hcalls : s.calls = 3 := by decide +kernel
  have hbase : baseNames ["example.com"] = ["example.com"] := by decide
  obtain ⟨-, -, hrun⟩ := caa_rewrite_closed plainProvider fate plainClient zone
    (List.nodup_singleton _) [["*.example.com"]]
  have hall : ∀ i, s.calls ≤ i → fate i = .answered := by
    intro i hi
    exact if_neg (by omega)
  obtain ⟨s', heq, -, hone⟩ := hrun ["example.com"] rfl hall
  refine ⟨hcalls, s', heq, hone.mpr ?_ "example.com" (hbase ▸ List.mem_singleton_self _)⟩
  intro name _ r hr _ p hdata _
  rw [List.mem_singleton.mp hr] at hdata
  cases hdata
  exact .inl rfl

end Dstack.Certbot
