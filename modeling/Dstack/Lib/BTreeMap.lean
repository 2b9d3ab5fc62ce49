/-
Ordered maps and sets (`BTreeMap`, `BTreeSet`).

A map is the list of its entries in the order of their keys, so that two
maps that answer alike are one map (`ext_get?`) and going through a map
is going through the list. Nothing else is known of a map from outside:
the lemmas about `get?` are all that proofs use.
-/
import Mathlib

namespace Dstack.Lib

/-- A map as its entries, in the order of their keys. -/
structure BTreeMap (κ α : Type) [LinearOrder κ] where
  entries : List (κ × α)
  sorted : entries.Pairwise fun e e' => e.1 < e'.1

namespace BTreeMap

variable {κ α β : Type} [LinearOrder κ]

-- == entries

/-- The value a list of entries has for a key. -/
def find (k : κ) : List (κ × α) → Option α
  | [] => none
  | (k', a) :: rest => if k = k' then some a else find k rest

/-- Put an entry at its place, over one with the same key. -/
def place (k : κ) (a : α) : List (κ × α) → List (κ × α)
  | [] => [(k, a)]
  | (k', b) :: rest =>
    if k < k' then (k, a) :: (k', b) :: rest
    else if k = k' then (k, a) :: rest
    else (k', b) :: place k a rest

/-- The entries without those of a key. -/
def drop (k : κ) (entries : List (κ × α)) : List (κ × α) :=
  entries.filter fun e => e.1 ≠ k

lemma mem_place {k : κ} {a : α} {entries : List (κ × α)} {e : κ × α}
    (h : e ∈ place k a entries) : e = (k, a) ∨ e ∈ entries := by
  induction entries with
  | nil => exact .inl (List.mem_singleton.mp h)
  | cons e' rest ih =>
    obtain ⟨k', b⟩ := e'
    unfold place at h
    split at h
    · exact List.mem_cons.mp h
    · split at h
      · rcases List.mem_cons.mp h with rfl | h
        · exact .inl rfl
        · exact .inr (List.mem_cons_of_mem _ h)
      · rcases List.mem_cons.mp h with rfl | h
        · exact .inr List.mem_cons_self
        · rcases ih h with rfl | h
          · exact .inl rfl
          · exact .inr (List.mem_cons_of_mem _ h)

lemma place_sorted {k : κ} {a : α} {entries : List (κ × α)}
    (h : entries.Pairwise fun e e' => e.1 < e'.1) :
    (place k a entries).Pairwise fun e e' => e.1 < e'.1 := by
  induction entries with
  | nil => exact List.pairwise_singleton _ _
  | cons e rest ih =>
    obtain ⟨k', b⟩ := e
    obtain ⟨hfirst, hrest⟩ := List.pairwise_cons.mp h
    unfold place
    split
    · next hlt =>
        refine List.pairwise_cons.mpr ⟨?_, h⟩
        intro e he
        rcases List.mem_cons.mp he with rfl | he
        · exact hlt
        · exact lt_trans hlt (hfirst e he)
    · next hle =>
        split
        · next heq =>
            subst heq
            exact List.pairwise_cons.mpr ⟨hfirst, hrest⟩
        · next hne =>
            refine List.pairwise_cons.mpr ⟨?_, ih hrest⟩
            intro e he
            rcases mem_place he with rfl | he
            · exact lt_of_le_of_ne (not_lt.mp hle) (Ne.symm hne)
            · exact hfirst e he

lemma find_place {k k' : κ} {a : α} {entries : List (κ × α)} :
    find k' (place k a entries) = if k = k' then some a else find k' entries := by
  induction entries with
  | nil => simp only [place, find, eq_comm]
  | cons e rest ih =>
    obtain ⟨k₀, b⟩ := e
    unfold place
    split
    · simp only [find, eq_comm]
    · split
      · next heq =>
          subst heq
          by_cases hk : k' = k
          · simp only [find, hk, if_true]
          · simp only [find, hk, if_false, Ne.symm hk]
      · next hne =>
          simp only [find, ih]
          by_cases hk : k' = k₀
          · subst hk
            simp only [if_true, hne, if_false]
          · simp only [hk, if_false]

lemma find_drop {k k' : κ} {entries : List (κ × α)} :
    find k' (drop k entries) = if k = k' then none else find k' entries := by
  induction entries with
  | nil => simp only [drop, find, List.filter_nil, ite_self]
  | cons e rest ih =>
    obtain ⟨k₀, b⟩ := e
    unfold drop at ih ⊢
    by_cases hk : k₀ = k
    · rw [List.filter_cons_of_neg (by simpa using hk), ih]
      by_cases hk' : k = k'
      · simp only [hk', if_true]
      · subst hk
        simp only [find, hk', if_false, Ne.symm hk']
    · rw [List.filter_cons_of_pos (by simpa using hk)]
      simp only [find, ih]
      by_cases hk' : k' = k₀
      · subst hk'
        simp only [if_true, Ne.symm hk, if_false]
      · simp only [hk', if_false]

lemma find_eq_some {k : κ} {a : α} {entries : List (κ × α)}
    (h : entries.Pairwise fun e e' => e.1 < e'.1) :
    find k entries = some a ↔ (k, a) ∈ entries := by
  induction entries with
  | nil => simp [find]
  | cons e rest ih =>
    obtain ⟨k', b⟩ := e
    obtain ⟨hfirst, hrest⟩ := List.pairwise_cons.mp h
    unfold find
    rw [List.mem_cons]
    split
    · next heq =>
        subst heq
        constructor
        · intro he
          cases he
          exact .inl rfl
        · rintro (he | hmem)
          · cases he
            rfl
          · exact absurd (hfirst _ hmem) (lt_irrefl _)
    · next hne =>
        rw [ih hrest]
        refine ⟨.inr, fun hor => hor.resolve_left fun he => hne ?_⟩
        exact congrArg Prod.fst he

lemma find_eq_none_of_lt {k : κ} {entries : List (κ × α)} (h : ∀ e ∈ entries, k < e.1) :
    find k entries = none := by
  induction entries with
  | nil => rfl
  | cons e rest ih =>
    rw [find, if_neg (ne_of_lt (h e List.mem_cons_self))]
    exact ih fun e' he' => h e' (List.mem_cons_of_mem _ he')

lemma sum_place {k : κ} {n : Nat} {entries : List (κ × Nat)}
    (h : entries.Pairwise fun e e' => e.1 < e'.1) :
    ((place k ((find k entries).getD 0 + n) entries).map Prod.snd).sum
      = (entries.map Prod.snd).sum + n := by
  induction entries with
  | nil => simp [place, find]
  | cons e rest ih =>
    obtain ⟨k', b⟩ := e
    obtain ⟨hfirst, hrest⟩ := List.pairwise_cons.mp h
    unfold place
    split
    · next hlt =>
        have hnone : find k ((k', b) :: rest) = none := by
          refine find_eq_none_of_lt fun e he => ?_
          rcases List.mem_cons.mp he with rfl | he
          · exact hlt
          · exact lt_trans hlt (hfirst e he)
        rw [hnone]
        simp only [List.map_cons, List.sum_cons, Option.getD_none]
        omega
    · split
      · next heq =>
          rw [find, if_pos heq]
          simp only [List.map_cons, List.sum_cons, Option.getD_some]
          omega
      · next hne =>
          rw [find, if_neg hne]
          simp only [List.map_cons, List.sum_cons, ih hrest]
          omega

lemma eq_of_find {entries entries' : List (κ × α)}
    (h : entries.Pairwise fun e e' => e.1 < e'.1)
    (h' : entries'.Pairwise fun e e' => e.1 < e'.1)
    (hfind : ∀ k, find k entries = find k entries') : entries = entries' := by
  have hmem : ∀ e, e ∈ entries ↔ e ∈ entries' := by
    rintro ⟨k, a⟩
    rw [← find_eq_some h, ← find_eq_some h', hfind]
  have hperm : entries.Perm entries' := by
    refine (List.perm_ext_iff_of_nodup ?_ ?_).mpr hmem
    · exact h.imp fun hlt he => absurd (congrArg Prod.fst he) (ne_of_lt hlt)
    · exact h'.imp fun hlt he => absurd (congrArg Prod.fst he) (ne_of_lt hlt)
  refine hperm.eq_of_pairwise ?_ h h'
  intro e e' _ _ hlt hlt'
  exact absurd (lt_trans hlt hlt') (lt_irrefl _)

-- == maps

/-- The map without entries. -/
def empty : BTreeMap κ α := ⟨[], List.Pairwise.nil⟩

/-- The value of a key. -/
def get? (m : BTreeMap κ α) (k : κ) : Option α := find k m.entries

/-- The map with a value for a key, over the one it had. -/
def insert (m : BTreeMap κ α) (k : κ) (a : α) : BTreeMap κ α :=
  ⟨place k a m.entries, place_sorted m.sorted⟩

/-- The map without a key (`remove`). -/
def erase (m : BTreeMap κ α) (k : κ) : BTreeMap κ α :=
  ⟨drop k m.entries, m.sorted.filter _⟩

/-- The map has the key. -/
def contains (m : BTreeMap κ α) (k : κ) : Bool := (m.get? k).isSome

def isEmpty (m : BTreeMap κ α) : Bool := m.entries.isEmpty

/-- A map of entries, later ones over earlier ones (`collect`). -/
def ofList (l : List (κ × α)) : BTreeMap κ α := l.foldl (fun m e => m.insert e.1 e.2) empty

@[simp] lemma get?_empty (k : κ) : (empty : BTreeMap κ α).get? k = none := rfl

lemma get?_insert (m : BTreeMap κ α) (k k' : κ) (a : α) :
    (m.insert k a).get? k' = if k = k' then some a else m.get? k' :=
  find_place

lemma sum_insert (m : BTreeMap κ Nat) (k : κ) (n : Nat) :
    ((m.insert k ((m.get? k).getD 0 + n)).entries.map Prod.snd).sum
      = (m.entries.map Prod.snd).sum + n :=
  sum_place m.sorted

lemma get?_erase (m : BTreeMap κ α) (k k' : κ) :
    (m.erase k).get? k' = if k = k' then none else m.get? k' :=
  find_drop

@[simp] lemma get?_insert_self (m : BTreeMap κ α) (k : κ) (a : α) :
    (m.insert k a).get? k = some a := by
  rw [get?_insert, if_pos rfl]

lemma get?_insert_of_ne {m : BTreeMap κ α} {k k' : κ} {a : α} (h : k ≠ k') :
    (m.insert k a).get? k' = m.get? k' := by
  rw [get?_insert, if_neg h]

lemma get?_insert_eq_some {m : BTreeMap κ α} {k k' : κ} {a b : α} :
    (m.insert k a).get? k' = some b ↔ k = k' ∧ a = b ∨ k ≠ k' ∧ m.get? k' = some b := by
  rw [get?_insert]
  by_cases h : k = k' <;> simp [h]

@[simp] lemma get?_erase_self (m : BTreeMap κ α) (k : κ) : (m.erase k).get? k = none := by
  rw [get?_erase, if_pos rfl]

lemma get?_erase_of_ne {m : BTreeMap κ α} {k k' : κ} (h : k ≠ k') :
    (m.erase k).get? k' = m.get? k' := by
  rw [get?_erase, if_neg h]

lemma get?_erase_eq_some {m : BTreeMap κ α} {k k' : κ} {a : α} :
    (m.erase k).get? k' = some a ↔ k ≠ k' ∧ m.get? k' = some a := by
  rw [get?_erase]
  by_cases h : k = k'
  · simp [h]
  · simp [h]

lemma mem_entries {m : BTreeMap κ α} {k : κ} {a : α} :
    (k, a) ∈ m.entries ↔ m.get? k = some a :=
  (find_eq_some m.sorted).symm

lemma ext_get? {m m' : BTreeMap κ α} (h : ∀ k, m.get? k = m'.get? k) : m = m' := by
  obtain ⟨entries, hsorted⟩ := m
  obtain ⟨entries', hsorted'⟩ := m'
  obtain rfl := eq_of_find hsorted hsorted' h
  rfl

lemma erase_erase (m : BTreeMap κ α) (k : κ) : (m.erase k).erase k = m.erase k := by
  refine ext_get? fun k' => ?_
  rw [get?_erase, get?_erase]
  by_cases h : k = k'
  · rw [if_pos h]
    rw [if_pos h]
  · rw [if_neg h]

lemma insert_insert (m : BTreeMap κ α) (k : κ) (a b : α) :
    (m.insert k a).insert k b = m.insert k b := by
  refine ext_get? fun k' => ?_
  rw [get?_insert, get?_insert, get?_insert]
  by_cases h : k = k'
  · rw [if_pos h, if_pos h]
  · rw [if_neg h, if_neg h, if_neg h]

lemma insert_eq_self {m : BTreeMap κ α} {k : κ} {a : α} :
    m.insert k a = m ↔ m.get? k = some a := by
  constructor
  · intro h
    rw [← h, get?_insert_self]
  · intro h
    refine ext_get? fun k' => ?_
    rw [get?_insert]
    by_cases hk : k = k'
    · rw [if_pos hk, ← hk, h]
    · rw [if_neg hk]

lemma erase_eq_self {m : BTreeMap κ α} {k : κ} : m.erase k = m ↔ m.get? k = none := by
  constructor
  · intro h
    rw [← h, get?_erase_self]
  · intro h
    refine ext_get? fun k' => ?_
    rw [get?_erase]
    by_cases hk : k = k'
    · rw [if_pos hk, ← hk, h]
    · rw [if_neg hk]

lemma isEmpty_iff {m : BTreeMap κ α} : m.isEmpty = true ↔ ∀ k, m.get? k = none := by
  unfold isEmpty
  rw [List.isEmpty_iff]
  constructor
  · intro h k
    unfold get?
    rw [h]
    rfl
  · intro h
    refine List.eq_nil_iff_forall_not_mem.mpr ?_
    rintro ⟨k, a⟩ hmem
    rw [mem_entries, h k] at hmem
    cases hmem

lemma nodup_filterMap (m : BTreeMap κ α) {g : κ × α → Option (κ × β)}
    (hg : ∀ e e', g e = some e' → e'.1 = e.1) :
    ((m.entries.filterMap g).map Prod.fst).Nodup := by
  rw [List.Nodup, List.pairwise_map]
  refine List.Pairwise.filterMap _ ?_ m.sorted
  intro e e' hlt b hb b' hb'
  rw [hg e b hb, hg e' b' hb']
  exact ne_of_lt hlt

lemma lookup_filterMap (m : BTreeMap κ α) {g : κ × α → Option (κ × β)}
    (hg : ∀ e e', g e = some e' → e'.1 = e.1) (k : κ) :
    (m.entries.filterMap g).lookup k = (m.get? k).bind fun a => (g (k, a)).map Prod.snd := by
  obtain ⟨entries, hsorted⟩ := m
  unfold get?
  dsimp only
  induction entries with
  | nil => rfl
  | cons e rest ih =>
    obtain ⟨k', a⟩ := e
    obtain ⟨hlt, hrest⟩ := List.pairwise_cons.mp hsorted
    unfold find
    by_cases hk : k = k'
    · subst hk
      rw [if_pos rfl, Option.bind_some]
      cases hga : g (k, a) with
      | some e' =>
        obtain ⟨k'', b⟩ := e'
        obtain rfl : k'' = k := hg _ _ hga
        rw [List.filterMap_cons_some hga, List.lookup_cons_self]
        rfl
      | none =>
        rw [List.filterMap_cons_none hga, Option.map_none, List.lookup_eq_none_iff]
        -- The later keys are other ones.
        intro e' he'
        obtain ⟨e, he, hge⟩ := List.mem_filterMap.mp he'
        rw [hg e e' hge, bne_iff_ne]
        exact ne_of_lt (hlt e he)
    · rw [if_neg hk, ← ih hrest]
      cases hga : g (k', a) with
      | some e' =>
        obtain ⟨k'', b⟩ := e'
        obtain rfl : k'' = k' := hg _ _ hga
        rw [List.filterMap_cons_some hga, List.lookup_cons, beq_eq_false_iff_ne.mpr hk]
      | none => rw [List.filterMap_cons_none hga]

instance [DecidableEq α] : DecidableEq (BTreeMap κ α) := fun m m' =>
  decidable_of_iff (m.entries = m'.entries) (by
    cases m
    cases m'
    simp)

end BTreeMap

-- == sets

/-- A set, as a map to nothing. -/
abbrev BTreeSet (κ : Type) [LinearOrder κ] := BTreeMap κ Unit

namespace BTreeSet

variable {κ : Type} [LinearOrder κ]

/-- The set has the element. -/
def mem (s : BTreeSet κ) (k : κ) : Prop := s.get? k = some ()

instance (s : BTreeSet κ) (k : κ) : Decidable (s.mem k) :=
  inferInstanceAs (Decidable (s.get? k = some ()))

/-- The set with one more element. -/
def add (s : BTreeSet κ) (k : κ) : BTreeSet κ := s.insert k ()

/-- The elements in their order. -/
def toList (s : BTreeSet κ) : List κ := s.entries.map Prod.fst

lemma mem_add {s : BTreeSet κ} {k k' : κ} : (add s k).mem k' ↔ k = k' ∨ s.mem k' := by
  unfold mem add
  rw [BTreeMap.get?_insert]
  by_cases h : k = k' <;> simp [h]

lemma mem_erase {s : BTreeSet κ} {k k' : κ} : mem (s.erase k) k' ↔ k ≠ k' ∧ s.mem k' :=
  BTreeMap.get?_erase_eq_some

lemma mem_toList {s : BTreeSet κ} {k : κ} : k ∈ s.toList ↔ s.mem k := by
  unfold toList mem
  rw [List.mem_map]
  constructor
  · rintro ⟨⟨k', u⟩, hmem, rfl⟩
    exact BTreeMap.mem_entries.mp hmem
  · intro h
    exact ⟨(k, ()), BTreeMap.mem_entries.mpr h, rfl⟩

lemma not_mem_empty (k : κ) : ¬mem (BTreeMap.empty : BTreeSet κ) k := by
  intro h
  cases h

lemma isEmpty_iff {s : BTreeSet κ} : s.isEmpty = true ↔ ∀ k, ¬s.mem k := by
  rw [BTreeMap.isEmpty_iff]
  refine forall_congr' fun k => ?_
  unfold mem
  cases s.get? k <;> simp

end BTreeSet

end Dstack.Lib
