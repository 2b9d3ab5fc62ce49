/-
What a replayed register says about the log that was replayed.

Equal registers come from equal digest lists (`Hasher.replay_injective`)
and equal digests from equal preimages, so a register binds its log as
far as a preimage binds its event. The two formats differ there.

- V2 hashes canonical JSON, whose string literals are self-delimiting:
  the preimage determines name and payload.
- V1 joins type, name and payload with `:` and nothing escapes a `:`
  inside a field. A preimage with more than two delimiters has more
  than one reading: the name may end at any `:` that follows valid
  UTF-8 (`v1_preimage_cases`).

So the log that a register binds is the log in which no V1 event can be
cut anywhere else, and `unsplittable_iff_bound` says that this is exact:
every other log shares its register with a log that reads differently,
and the two replays hash the very same inputs.
-/
import Dstack.EventLog.Runtime

namespace Dstack.EventLog

open Lib

-- == V2 preimages

lemma canonicalEventJsonV2_inj {n n' : String} {p p' : Bytes}
    (h : canonicalEventJsonV2 n p = canonicalEventJsonV2 n' p') :
    n = n' ∧ p = p' := by
  unfold canonicalEventJsonV2 at h
  rw [String.append_assoc, String.append_assoc, String.append_assoc,
    String.append_assoc] at h
  obtain ⟨hn, hrest⟩ := jsonString_append_inj (String.append_right_inj _ |>.mp h)
  obtain ⟨hp, -⟩ := jsonString_append_inj
    (String.append_right_inj _ |>.mp hrest)
  exact ⟨hn, hexEncode_injective hp⟩

-- == V1 preimages

/-- One V1 text cut at two places: the longer name continues the
shorter one across a delimiter, and the payload lost that part. -/
private lemma v1_cut {n n' : String} {p p' r : Bytes} (hn : utf8 n' = utf8 n ++ r)
    (hp : utf8 ":" ++ p = r ++ (utf8 ":" ++ p')) :
    (n' = n ∧ p' = p)
      ∨ ∃ q, n' = n ++ (":" ++ q) ∧ p = utf8 q ++ utf8 ":" ++ p' := by
  obtain ⟨u, hu, hr⟩ := utf8_eq_append hn
  rw [hr] at hp
  cases hru : r with
  | nil =>
    rw [hru] at hr
    have hempty : u = "" := utf8_injective hr.symm
    rw [hempty, String.append_empty] at hu
    rw [hempty] at hp
    exact .inl ⟨hu, (List.append_cancel_left hp).symm⟩
  | cons b r' =>
    -- the cut byte is the delimiter both readings put there
    have hb : utf8 u = utf8 ":" ++ r' := by
      rw [← hr, hru] at hp ⊢
      have hcolon : utf8 ":" = [58] := by decide
      rw [hcolon] at hp ⊢
      simp only [List.cons_append, List.nil_append, List.cons.injEq] at hp ⊢
      exact ⟨hp.1.symm, trivial⟩
    obtain ⟨q, hq, hr'⟩ := utf8_eq_append hb
    refine .inr ⟨q, by rw [hu, hq], ?_⟩
    rw [hq, utf8_append, List.append_assoc] at hp
    rw [List.append_cancel_left hp, List.append_assoc]

variable {e e' : RuntimeEvent}

lemma v1_preimage_cases (hv : e.version = .V1)
    (hv' : e'.version = .V1) (h : e.preimage = e'.preimage) :
    e.content = e'.content
      ∨ (∃ q, e'.event = e.event ++ (":" ++ q)
          ∧ e.payload = utf8 q ++ utf8 ":" ++ e'.payload)
      ∨ (∃ q, e.event = e'.event ++ (":" ++ q)
          ∧ e'.payload = utf8 q ++ utf8 ":" ++ e.payload) := by
  unfold RuntimeEvent.preimage at h
  rw [hv, hv'] at h
  simp only [List.append_assoc] at h
  have h := List.append_cancel_left (List.append_cancel_left h)
  rcases List.append_eq_append_iff.mp h with ⟨r, hn, hp⟩ | ⟨r, hn, hp⟩
  · rcases v1_cut hn hp with ⟨hev, hpl⟩ | hcut
    · exact .inl (Prod.ext hev.symm hpl.symm)
    · exact .inr (.inl hcut)
  · rcases v1_cut hn hp with ⟨hev, hpl⟩ | hcut
    · exact .inl (Prod.ext hev hpl)
    · exact .inr (.inr hcut)

-- == across versions

lemma version_eq_of_preimage_eq (h : e.preimage = e'.preimage) : e.version = e'.version := by
  have hV1 : ∀ e : RuntimeEvent, e.version = .V1 →
      e.preimage.head? = some 1 := by
    intro e hv
    unfold RuntimeEvent.preimage
    rw [hv]
    rfl
  have hV2 : ∀ e : RuntimeEvent, e.version = .V2 →
      e.preimage.head? = some 123 := by
    intro e hv
    unfold RuntimeEvent.preimage canonicalEventJsonV2
    rw [hv]
    have hbrace : utf8 "\x7b\"name\":"
        = [123, 34, 110, 97, 109, 101, 34, 58] := by decide
    simp only [utf8_append, hbrace, List.cons_append, List.head?_cons]
  cases hv : e.version <;> cases hv' : e'.version
  · rfl
  · have h1 := hV1 e hv
    rw [h, hV2 e' hv'] at h1
    simp at h1
  · have h1 := hV2 e hv
    rw [h, hV1 e' hv'] at h1
    simp at h1
  · rfl

lemma v2_preimage_inj (hv : e.version = .V2)
    (hv' : e'.version = .V2) (h : e.preimage = e'.preimage) :
    e.content = e'.content := by
  unfold RuntimeEvent.preimage at h
  rw [hv, hv'] at h
  obtain ⟨hn, hp⟩ := canonicalEventJsonV2_inj (utf8_injective h)
  exact Prod.ext hn hp

-- == what a log binds

/-- A V1 event with one reading only: no delimiter in its name, and
none in its payload that a longer name could end at. V2 events always
have one reading. -/
def RuntimeEvent.Unsplittable (e : RuntimeEvent) : Prop :=
  e.version = .V1 →
    (∀ s t, e.event ≠ s ++ (":" ++ t)) ∧
    (∀ q p, e.payload ≠ utf8 q ++ utf8 ":" ++ p)

lemma RuntimeEvent.Unsplittable.content_eq
    (he : e.Unsplittable) (h : e.preimage = e'.preimage) :
    e.content = e'.content := by
  have hver := version_eq_of_preimage_eq h
  cases hv : e.version with
  | V2 => exact v2_preimage_inj hv (hver ▸ hv) h
  | V1 =>
    obtain ⟨hname, hpayload⟩ := he hv
    rcases v1_preimage_cases hv (hver ▸ hv) h with
      hc | ⟨q, -, hp⟩ | ⟨q, hn, -⟩
    · exact hc
    · exact absurd hp (hpayload q _)
    · exact absurd hn (hname _ q)

lemma RuntimeEvent.exists_resplit (he : ¬ e.Unsplittable) :
    ∃ e' : RuntimeEvent, e'.preimage = e.preimage ∧ e'.content ≠ e.content := by
  unfold RuntimeEvent.Unsplittable at he
  push Not at he
  obtain ⟨hv, hcut⟩ := he
  have hpre : e.preimage = leBytes 4 dstackRuntimeEventType ++ utf8 ":"
      ++ utf8 e.event ++ utf8 ":" ++ e.payload := by
    unfold RuntimeEvent.preimage
    rw [hv]
  by_cases hname : ∀ s t, e.event ≠ s ++ (":" ++ t)
  · -- the name grows up to a delimiter of the payload
    obtain ⟨q, p, hp⟩ := hcut hname
    refine ⟨⟨e.event ++ (":" ++ q), p, .V1⟩, ?_, ?_⟩
    · rw [hpre, hp]
      simp [RuntimeEvent.preimage, List.append_assoc]
    · intro hc
      have hev : e.event ++ (":" ++ q) = e.event := congrArg Prod.fst hc
      have hlen := congrArg String.length hev
      simp [String.length_append] at hlen
  · -- the name shrinks to one of its own delimiters
    push Not at hname
    obtain ⟨s, t, hst⟩ := hname
    refine ⟨⟨s, utf8 t ++ utf8 ":" ++ e.payload, .V1⟩, ?_, ?_⟩
    · rw [hpre, hst]
      simp [RuntimeEvent.preimage, List.append_assoc]
    · intro hc
      have hev : s = e.event := congrArg Prod.fst hc
      have hlen := congrArg String.length (hev.trans hst)
      simp [String.length_append] at hlen

/-- No event of a log can be read as another name and payload. -/
def Unsplittable (log : List RuntimeEvent) : Prop :=
  ∀ e ∈ log, e.Unsplittable

lemma Unsplittable.contents_eq :
    ∀ {l l' : List RuntimeEvent}, Unsplittable l →
      l.map (·.preimage) = l'.map (·.preimage) →
      l.map (·.content) = l'.map (·.content) := by
  intro l
  induction l with
  | nil =>
    intro l' _ h
    rw [List.map_nil] at h
    rw [List.map_eq_nil_iff.mp h.symm]
  | cons e l ih =>
    intro l' hl h
    cases l' with
    | nil => simp at h
    | cons e' l' =>
      simp only [List.map_cons, List.cons.injEq] at h ⊢
      exact ⟨(hl e List.mem_cons_self).content_eq h.1,
        ih (fun x hx => hl x (List.mem_cons_of_mem _ hx)) h.2⟩

variable {l : List RuntimeEvent}

lemma exists_resplit (hl : ¬ Unsplittable l) :
    ∃ l' : List RuntimeEvent, l'.map (·.preimage) = l.map (·.preimage)
      ∧ l'.map (·.content) ≠ l.map (·.content) := by
  unfold Unsplittable at hl
  push Not at hl
  obtain ⟨e, hmem, he⟩ := hl
  obtain ⟨e', hpre, hcont⟩ := RuntimeEvent.exists_resplit he
  obtain ⟨before, after, rfl⟩ := List.append_of_mem hmem
  refine ⟨before ++ e' :: after, by simp [hpre], ?_⟩
  intro hc
  simp only [List.map_append, List.map_cons] at hc
  exact hcont (List.cons.inj (List.append_cancel_left hc)).1

variable {H : Hasher}

lemma map_digest (H : Hasher) (log : List RuntimeEvent) :
    log.map (·.digest H) = (log.map (·.preimage)).map H.hash := by
  rw [List.map_map]
  rfl

lemma preimages_eq_of_replayEvents_eq {l' : List RuntimeEvent} (hcf : H.CollisionFreeOn
      (replayEventsInputs H l ++ replayEventsInputs H l'))
    (hz : H.NoZeroOn (replayEventsInputs H l ++ replayEventsInputs H l'))
    (h : replayEvents H l none = replayEvents H l' none) :
    l.map (·.preimage) = l'.map (·.preimage) := by
  unfold replayEventsInputs at hcf hz
  have hsub : H.replayInputs (l.map (·.digest H))
        ++ H.replayInputs (l'.map (·.digest H))
      ⊆ l.map (·.preimage) ++ H.replayInputs (l.map (·.digest H))
        ++ (l'.map (·.preimage) ++ H.replayInputs (l'.map (·.digest H))) := by
    intro m hm
    simp only [List.mem_append] at hm ⊢
    tauto
  rw [replayEvents_none, replayEvents_none] at h
  have hdig := Hasher.replay_injective (hcf.mono hsub) (hz.mono hsub) h
  rw [map_digest, map_digest] at hdig
  exact hcf.map_hash_inj (fun m hm => by simp only [List.mem_append]; tauto)
    (fun m hm => by simp only [List.mem_append]; tauto) hdig

lemma replayEventsInputs_congr {l' : List RuntimeEvent}
    (h : l.map (·.preimage) = l'.map (·.preimage)) :
    replayEventsInputs H l = replayEventsInputs H l' := by
  simp only [replayEventsInputs, map_digest, h]

lemma replayEvents_congr {l' : List RuntimeEvent}
    (h : l.map (·.preimage) = l'.map (·.preimage)) :
    replayEvents H l none = replayEvents H l' none := by
  simp only [replayEvents_none, map_digest, h]

/-- The register of `l` binds its contents: no other log replays to it,
short of a collision or a zero digest among the inputs hashed. -/
def BoundByReplay (H : Hasher) (l : List RuntimeEvent) : Prop :=
  ∀ l' : List RuntimeEvent,
    H.CollisionFreeOn (replayEventsInputs H l ++ replayEventsInputs H l') →
    H.NoZeroOn (replayEventsInputs H l ++ replayEventsInputs H l') →
    replayEvents H l none = replayEvents H l' none →
    l.map (·.content) = l'.map (·.content)

lemma Unsplittable.boundByReplay (hl : Unsplittable l) : BoundByReplay H l :=
  fun _ hcf hz h => hl.contents_eq (preimages_eq_of_replayEvents_eq hcf hz h)

lemma unsplittable_iff_bound (hcf : H.CollisionFreeOn (replayEventsInputs H l))
    (hz : H.NoZeroOn (replayEventsInputs H l)) :
    BoundByReplay H l ↔ Unsplittable l := by
  refine ⟨fun hbound => ?_, Unsplittable.boundByReplay⟩
  by_contra hl
  obtain ⟨l', hpre, hcont⟩ := exists_resplit hl
  refine hcont (hbound l' ?_ ?_ (replayEvents_congr hpre.symm)).symm
  · rw [replayEventsInputs_congr hpre]
    exact hcf.mono (by simp)
  · rw [replayEventsInputs_congr hpre]
    exact hz.mono (by simp)

end Dstack.EventLog
