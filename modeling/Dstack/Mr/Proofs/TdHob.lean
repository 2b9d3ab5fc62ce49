/-
The order in which memory is accepted does not matter.

Accepting a range cuts it out of the unaccepted ranges and adds it. Cuts
by ranges that do not meet commute, so after any order of accepting
such ranges the same pieces are there (`acceptAll_perm`); sorting keeps
them one after the other (`acceptAll_sound`), and there is only one list
of them that is. That makes the ranges a firmware declares and the
sorted ranges of its witness one TD HOB (`measureTdHob_witness`).
-/
import Dstack.Mr.Proofs.Mrtd

namespace Dstack.Mr

open Lib Intervals

-- == cutting

namespace MemoryAcceptor

def taken (r : Nat × Nat) : MemRange := ⟨true, r.1, r.2⟩

def Disjoint (r q : Nat × Nat) : Prop := r.2 ≤ q.1 ∨ q.2 ≤ r.1

lemma Disjoint.symm {r q : Nat × Nat} (h : Disjoint r q) : Disjoint q r := Or.symm h

instance : Std.Symm Disjoint := ⟨fun _ _ h => h.symm⟩

variable {start stop : Nat} {r : MemRange}

lemma mem_piece :
    r ∈ piece start stop ↔ start < stop ∧ r = ⟨false, start, stop⟩ := by
  unfold piece
  split <;> simp_all

lemma cut_accepted (h : r.accepted = true) :
    cut start stop r = [r] := if_pos (.inl h)

lemma cut_out (h : r.stop ≤ start ∨ stop ≤ r.start) : cut start stop r = [r] :=
  if_pos (.inr h)

lemma cut_in (hacc : r.accepted = false) (hleft : start < r.stop) (hright : r.start < stop) :
    cut start stop r = piece r.start start ++ piece stop r.stop := by
  rw [cut, if_neg]
  simp only [hacc, Bool.false_eq_true, false_or, not_or]
  omega

lemma mem_cut {y : MemRange} (hy : y ∈ cut start stop r) :
    y = r ∧ (r.accepted = true ∨ r.stop ≤ start ∨ stop ≤ r.start)
      ∨ y.accepted = false ∧ y.start < y.stop ∧ r.start ≤ y.start ∧ y.stop ≤ r.stop
        ∧ (y.stop ≤ start ∨ stop ≤ y.start) := by
  unfold cut at hy
  split at hy
  next hout => exact .inl ⟨List.mem_singleton.mp hy, hout⟩
  next hin =>
    simp only [not_or] at hin
    right
    rcases List.mem_append.mp hy with hy | hy
    · obtain ⟨hlt, rfl⟩ := mem_piece.mp hy
      exact ⟨rfl, hlt, Nat.le_refl _, by show start ≤ r.stop; omega,
        .inl (Nat.le_refl _)⟩
    · obtain ⟨hlt, rfl⟩ := mem_piece.mp hy
      exact ⟨rfl, hlt, by show r.start ≤ stop; omega, Nat.le_refl _,
        .inr (Nat.le_refl _)⟩

lemma cut_inside {y : MemRange} (hy : y ∈ cut start stop r) :
    r.start ≤ y.start ∧ y.stop ≤ r.stop := by
  rcases mem_cut hy with ⟨rfl, -⟩ | ⟨-, -, hl, hu, -⟩
  · exact ⟨Nat.le_refl _, Nat.le_refl _⟩
  · exact ⟨hl, hu⟩

lemma cut_chain (h : start < stop) (hr : r.start ≤ r.stop) :
    Chain MemRange.start MemRange.stop (cut start stop r) := by
  refine ⟨?_, ?_⟩
  · intro y hy
    rcases mem_cut hy with ⟨rfl, -⟩ | ⟨-, hlt, -⟩
    · exact hr
    · exact Nat.le_of_lt hlt
  · unfold cut
    split
    · exact List.pairwise_singleton _ _
    · refine List.pairwise_append.mpr ⟨?_, ?_, ?_⟩
      · unfold piece
        split <;> simp
      · unfold piece
        split <;> simp
      · intro x hx y hy
        obtain ⟨-, rfl⟩ := mem_piece.mp hx
        obtain ⟨-, rfl⟩ := mem_piece.mp hy
        exact Nat.le_of_lt h

lemma flatMap_cut_out :
    ∀ {l : List MemRange}, (∀ y ∈ l, y.stop ≤ start ∨ stop ≤ y.start) →
      l.flatMap (cut start stop) = l := by
  intro l
  induction l with
  | nil => intro _; rfl
  | cons y l ih =>
    intro h
    rw [List.flatMap_cons, cut_out (h y List.mem_cons_self),
      ih fun z hz => h z (List.mem_cons_of_mem _ hz)]
    rfl

lemma flatMap_cut_piece {a b : Nat} (hleft : start < b) (hright : a < stop) :
    (piece a b).flatMap (cut start stop) = piece a start ++ piece stop b := by
  by_cases hab : a < b
  · have hpiece : piece a b = [⟨false, a, b⟩] := if_pos hab
    rw [hpiece, List.flatMap_cons, List.flatMap_nil, List.append_nil,
      cut_in rfl hleft hright]
  · have hnil : ∀ c d, ¬ c < d → piece c d = [] := fun c d h => if_neg h
    rw [hnil a b hab, hnil a start (by omega), hnil stop b (by omega)]
    rfl

lemma piece_out {a b : Nat} (h : b ≤ start ∨ stop ≤ a) :
    (piece a b).flatMap (cut start stop) = piece a b := by
  refine flatMap_cut_out fun y hy => ?_
  obtain ⟨-, rfl⟩ := mem_piece.mp hy
  exact h

/-- Cuts commute when the first interval lies before the second. The one
case with work is a range that meets both; otherwise one of the cuts
does nothing to the range and so nothing to what the other leaves. -/
lemma cut_comm_of_le {r q : Nat × Nat} (hr : r.1 < r.2) (hq : q.1 < q.2)
    (h : r.2 ≤ q.1) (m : MemRange) :
    (cut r.1 r.2 m).flatMap (cut q.1 q.2) = (cut q.1 q.2 m).flatMap (cut r.1 r.2) := by
  cases hacc : m.accepted with
  | true => simp [cut_accepted hacc]
  | false =>
    by_cases hrm : m.stop ≤ r.1 ∨ r.2 ≤ m.start
    · rw [cut_out hrm, List.flatMap_singleton]
      refine (flatMap_cut_out fun y hy => ?_).symm
      have hin := cut_inside hy
      omega
    · by_cases hqm : m.stop ≤ q.1 ∨ q.2 ≤ m.start
      · rw [cut_out hqm, List.flatMap_singleton]
        refine flatMap_cut_out fun y hy => ?_
        have hin := cut_inside hy
        omega
      · simp only [not_or, Nat.not_le] at hrm hqm
        rw [cut_in hacc hrm.1 hrm.2, cut_in hacc hqm.1 hqm.2,
          List.flatMap_append, List.flatMap_append,
          piece_out (.inl (by omega)), flatMap_cut_piece hqm.1 (by omega),
          flatMap_cut_piece (by omega) hrm.2, piece_out (.inr (by omega)),
          List.append_assoc]

lemma cut_comm {r q : Nat × Nat} (hr : r.1 < r.2) (hq : q.1 < q.2)
    (h : Disjoint r q) (m : MemRange) :
    (cut r.1 r.2 m).flatMap (cut q.1 q.2) = (cut q.1 q.2 m).flatMap (cut r.1 r.2) := by
  rcases h with h | h
  · exact cut_comm_of_le hr hq h m
  · exact (cut_comm_of_le hq hr h m).symm

-- == many ranges

def cutAll (rs : List (Nat × Nat)) (l : List MemRange) : List MemRange :=
  rs.foldl (fun l r => l.flatMap (cut r.1 r.2)) l

def acceptAll (rs : List (Nat × Nat)) (a : MemoryAcceptor) : MemoryAcceptor :=
  rs.foldl (fun a r => a.accept r.1 r.2) a

lemma cutAll_append (rs : List (Nat × Nat)) :
    ∀ l k, cutAll rs (l ++ k) = cutAll rs l ++ cutAll rs k := by
  induction rs with
  | nil => intro l k; rfl
  | cons r rs ih =>
    intro l k
    show cutAll rs ((l ++ k).flatMap _) = _
    rw [List.flatMap_append, ih]
    rfl

lemma cutAll_perm (rs : List (Nat × Nat)) :
    ∀ {l k : List MemRange}, l.Perm k → (cutAll rs l).Perm (cutAll rs k) := by
  induction rs with
  | nil => intro l k h; exact h
  | cons r rs ih =>
    intro l k h
    exact ih (h.flatMap_right _)

lemma cutAll_taken (rs : List (Nat × Nat)) (r : Nat × Nat) :
    cutAll rs [taken r] = [taken r] := by
  induction rs with
  | nil => rfl
  | cons q rs ih => exact ih

lemma cutAll_comm {rs qs : List (Nat × Nat)} (hperm : rs.Perm qs)
    (hne : ∀ r ∈ rs, r.1 < r.2) (hdisj : rs.Pairwise Disjoint) (l : List MemRange) :
    cutAll rs l = cutAll qs l := by
  refine hperm.foldl_eq' ?_ l
  intro r hr q hq z
  rw [List.flatMap_assoc, List.flatMap_assoc]
  refine List.flatMap_congr fun m _ => ?_
  by_cases hrq : r = q
  · rw [hrq]
  · exact cut_comm (hne r hr) (hne q hq)
      (hdisj.forall hr hq hrq) m

lemma accept_perm (h : start < stop) (a : MemoryAcceptor) :
    (a.accept start stop).ranges.Perm
      (a.ranges.flatMap (cut start stop) ++ [taken (start, stop)]) := by
  rw [accept, if_neg (by omega)]
  exact sortByStart_perm _

lemma acceptAll_perm :
    ∀ {rs : List (Nat × Nat)} (a : MemoryAcceptor), (∀ r ∈ rs, r.1 < r.2) →
      (acceptAll rs a).ranges.Perm (cutAll rs a.ranges ++ rs.map taken) := by
  intro rs
  induction rs with
  | nil =>
    intro a _
    show a.ranges.Perm (a.ranges ++ [])
    rw [List.append_nil]
  | cons r rs ih =>
    intro a hne
    have hr := hne r List.mem_cons_self
    have hstep := cutAll_perm rs (accept_perm hr a)
    rw [cutAll_append, cutAll_taken] at hstep
    have hrest := ih (a.accept r.1 r.2) fun q hq => hne q (List.mem_cons_of_mem _ hq)
    refine hrest.trans ?_
    have happ := hstep.append_right (rs.map taken)
    rwa [List.append_assoc] at happ

/-- The ranges of an acceptor follow one another, and accepted ones are
not empty. -/
structure Sound (a : MemoryAcceptor) : Prop where
  chain : Chain MemRange.start MemRange.stop a.ranges
  nonempty : ∀ m ∈ a.ranges, m.accepted = true → m.start < m.stop

lemma new_sound (size : Nat) : (new 0 size).Sound := by
  refine ⟨⟨?_, List.pairwise_singleton _ _⟩, ?_⟩
  · intro m hm
    rw [List.mem_singleton.mp hm]
    exact Nat.zero_le _
  · intro m hm hacc
    rw [List.mem_singleton.mp hm] at hacc
    cases hacc

lemma accept_sound (h : start < stop) {a : MemoryAcceptor}
    (ha : a.Sound) (hapart : ∀ m ∈ a.ranges, m.accepted = true →
      m.stop ≤ start ∨ stop ≤ m.start) : (a.accept start stop).Sound := by
  have hcut : Chain MemRange.start MemRange.stop (a.ranges.flatMap (cut start stop)) :=
    ha.chain.flatMap fun m hm =>
      ⟨cut_chain h (ha.chain.1 m hm), fun y hy => cut_inside hy⟩
  have hclear : ∀ y ∈ a.ranges.flatMap (cut start stop),
      Apart MemRange.start MemRange.stop y (taken (start, stop)) := by
    intro y hy
    obtain ⟨m, hm, hym⟩ := List.mem_flatMap.mp hy
    rcases mem_cut hym with ⟨rfl, hacc | hout⟩ | ⟨-, -, -, -, hout⟩
    · exact hapart y hm hacc
    · exact hout
    · exact hout
  constructor
  · rw [accept, if_neg (by omega)]
    exact hcut.insert h hclear
  · intro y hy hacc
    rcases List.mem_append.mp ((accept_perm h a).mem_iff.mp hy) with hy | hy
    · obtain ⟨m, hm, hym⟩ := List.mem_flatMap.mp hy
      rcases mem_cut hym with ⟨rfl, -⟩ | ⟨hno, -⟩
      · exact ha.nonempty y hm hacc
      · rw [hno] at hacc
        cases hacc
    · rw [List.mem_singleton.mp hy]
      exact h

lemma accepted_of_accept (h : start < stop) {a : MemoryAcceptor}
    {m : MemRange} (hm : m ∈ (a.accept start stop).ranges) (hacc : m.accepted = true) :
    m ∈ a.ranges ∨ m = taken (start, stop) := by
  rcases List.mem_append.mp ((accept_perm h a).mem_iff.mp hm) with hm | hm
  · obtain ⟨n, hn, hmn⟩ := List.mem_flatMap.mp hm
    rcases mem_cut hmn with ⟨rfl, -⟩ | ⟨hno, -⟩
    · exact .inl hn
    · rw [hno] at hacc
      cases hacc
  · exact .inr (List.mem_singleton.mp hm)

lemma acceptAll_sound :
    ∀ {rs : List (Nat × Nat)} {a : MemoryAcceptor}, a.Sound →
      (∀ r ∈ rs, r.1 < r.2) → rs.Pairwise Disjoint →
      (∀ r ∈ rs, ∀ m ∈ a.ranges, m.accepted = true → m.stop ≤ r.1 ∨ r.2 ≤ m.start) →
      (acceptAll rs a).Sound := by
  intro rs
  induction rs with
  | nil => intro a ha _ _ _; exact ha
  | cons r rs ih =>
    intro a ha hne hdisj hapart
    have hr := hne r List.mem_cons_self
    obtain ⟨hfirst, hrest⟩ := List.pairwise_cons.mp hdisj
    refine ih (accept_sound hr ha (hapart r List.mem_cons_self))
      (fun q hq => hne q (List.mem_cons_of_mem _ hq)) hrest ?_
    intro q hq m hm hacc
    rcases accepted_of_accept hr hm hacc with hold | rfl
    · exact hapart q (List.mem_cons_of_mem _ hq) m hold hacc
    · exact hfirst q hq

lemma acceptAll_comm {rs qs : List (Nat × Nat)} (hperm : rs.Perm qs)
    (hne : ∀ r ∈ rs, r.1 < r.2) (hdisj : rs.Pairwise Disjoint) (size : Nat) :
    acceptAll rs (new 0 size) = acceptAll qs (new 0 size) := by
  have hne' : ∀ r ∈ qs, r.1 < r.2 := fun r hr => hne r (hperm.mem_iff.mpr hr)
  have hdisj' : qs.Pairwise Disjoint :=
    (hperm.pairwise_iff fun h => h.symm).mp hdisj
  have hnew : ∀ r : Nat × Nat, ∀ m ∈ (new 0 size).ranges, m.accepted = true →
      m.stop ≤ r.1 ∨ r.2 ≤ m.start := by
    intro r m hm hacc
    rw [List.mem_singleton.mp hm] at hacc
    cases hacc
  have hs := acceptAll_sound (new_sound size) hne hdisj fun r _ => hnew r
  have hs' := acceptAll_sound (new_sound size) hne' hdisj' fun r _ => hnew r
  have hp := acceptAll_perm (new 0 size) hne
  rw [cutAll_comm hperm hne hdisj] at hp
  have hp' : (acceptAll rs (new 0 size)).ranges.Perm (acceptAll qs (new 0 size)).ranges :=
    hp.trans ((List.Perm.append_left _ (hperm.map taken)).trans
      (acceptAll_perm (new 0 size) hne').symm)
  have hranges := hs.chain.unique hs'.chain hp' ?_
  · exact congrArg MemoryAcceptor.mk hranges
  · -- an empty range is not accepted, and then its ends say it all
    intro x hx y hy hx' hy' hxy
    obtain ⟨xa, xs, xe⟩ := x
    obtain ⟨ya, ys, ye⟩ := y
    have hxa : xa = false := by
      cases xa with
      | false => rfl
      | true => exact absurd (hs.nonempty _ hx rfl) (by simp_all)
    have hya : ya = false := by
      cases ya with
      | false => rfl
      | true => exact absurd (hs.nonempty _ hy rfl) (by simp_all)
    simp_all

end MemoryAcceptor

open MemoryAcceptor

-- == ranges of a firmware

def addressRange (r : Nat × Nat) : Nat × Nat :=
  (r.1 * pageSize, r.1 * pageSize + r.2 * pageSize)

def TdvfSection.pages (s : TdvfSection) : Nat × Nat :=
  (s.memoryAddress / pageSize, s.memoryDataSize / pageSize)

namespace Tdvf

def acceptedPages (t : Tdvf) : List (Nat × Nat) :=
  (t.sections.filter accepts).map TdvfSection.pages

def hobBase (ss : List TdvfSection) (d : Nat) : Nat :=
  ss.foldl (fun b s => if s.secType = tdvfSectionTdHob then s.memoryAddress else b) d

variable {t : Tdvf} {s : TdvfSection} {n : Nat}

lemma addressRange_pages (hs : s.Valid n) :
    addressRange s.pages = (s.memoryAddress, s.memoryAddress + s.memoryDataSize) := by
  have haddr := hs.address_aligned
  have hsize := hs.size_aligned
  simp only [addressRange, TdvfSection.pages, pageSize, Prod.mk.injEq] at *
  omega

lemma acceptSection_ok (hs : s.Valid n) (state : MemoryAcceptor × Nat) :
    acceptSection state s = .ok
      (if accepts s then
          state.1.accept (addressRange s.pages).1 (addressRange s.pages).2
        else state.1,
        if s.secType = tdvfSectionTdHob then s.memoryAddress else state.2) := by
  have hfits := checkedAdd_eq_some.mpr ⟨hs.address_fits, rfl⟩
  rw [addressRange_pages hs, acceptSection]
  cases accepts s with
  | true => simp [hfits, Result.ofOption, bind, Except.bind, pure, Except.pure]
  | false => simp [bind, Except.bind, pure, Except.pure]

lemma acceptSections_ok :
    ∀ {ss : List TdvfSection} (a : MemoryAcceptor) (b : Nat),
      (∀ s ∈ ss, s.Valid n) →
      ss.foldlM acceptSection (a, b) = .ok
        (acceptAll (((ss.filter accepts).map TdvfSection.pages).map addressRange) a,
          hobBase ss b) := by
  intro ss
  induction ss with
  | nil => intro a b _; rfl
  | cons s ss ih =>
    intro a b hvalid
    have hrest := fun a b => ih a b fun q hq => hvalid q (List.mem_cons_of_mem _ hq)
    rw [List.foldlM_cons, acceptSection_ok (hvalid s List.mem_cons_self)]
    show ss.foldlM acceptSection _ = _
    rw [hrest]
    cases hacc : accepts s with
    | true =>
      rw [List.filter_cons_of_pos (by exact hacc)]
      rfl
    | false =>
      rw [List.filter_cons_of_neg (by rw [hacc]; exact Bool.false_ne_true)]
      rfl

lemma measureTdHob_eq (ht : t.WellFormed) (memorySize : Nat) :
    t.measureTdHob memorySize
      = measureHob (acceptAll (t.acceptedPages.map addressRange) (new 0 memorySize))
          memorySize (hobBase t.sections 0x809000)
          "TD HOB end-of-list address overflows" := by
  unfold measureTdHob
  rw [acceptSections_ok _ _ ht.sections_valid]
  rfl

lemma acceptedPages_fits (ht : t.WellFormed) {r : Nat × Nat}
    (hr : r ∈ t.acceptedPages) : r.1 * pageSize + r.2 * pageSize < 2 ^ 64 := by
  obtain ⟨s, hs, rfl⟩ := List.mem_map.mp hr
  have hvalid := ht.sections_valid s (List.mem_filter.mp hs).1
  have hrange := addressRange_pages hvalid
  have hfits := hvalid.address_fits
  have hsnd := congrArg Prod.snd hrange
  show (addressRange s.pages).2 < 2 ^ 64
  rw [hsnd]
  exact hfits

-- == the witness

/-- Collecting the ranges: they are the accepted pages, none is empty,
and the page of the TD HOB is where the loop over all sections puts its
base. -/
lemma witnessRanges_ok :
    ∀ {ss : List TdvfSection} {acc rs : List (Nat × Nat)} {p q : Option Nat},
      (∀ s ∈ ss, s.Valid n) → witnessRanges ss acc p = .ok (rs, q) →
      rs = acc ++ (ss.filter accepts).map TdvfSection.pages
      ∧ (∀ s ∈ ss, accepts s = true → s.numPages ≠ 0)
      ∧ (∀ d, (∀ pg ∈ p, d = pg * pageSize) → ∀ pg ∈ q, hobBase ss d = pg * pageSize)
      ∧ (∀ pg ∈ q, pg ∈ p ∨ ∃ s ∈ ss, accepts s = true ∧ s.pages.1 = pg) := by
  intro ss
  induction ss with
  | nil =>
    intro acc rs p q _ h
    simp only [witnessRanges, Except.ok.injEq, Prod.mk.injEq] at h
    obtain ⟨rfl, rfl⟩ := h
    refine ⟨by simp, by simp, fun d hd => hd, fun pg hpg => .inl hpg⟩
  | cons s ss ih =>
    intro acc rs p q hvalid h
    simp only [witnessRanges, ok_iff] at h
    obtain ⟨_, hne, _, hone, h⟩ := h
    obtain ⟨hrs, hnonempty, hbase, hpage⟩ :=
      ih (fun q hq => hvalid q (List.mem_cons_of_mem _ hq)) h
    have haligned := (hvalid s List.mem_cons_self).address_aligned
    refine ⟨?_, ?_, ?_, ?_⟩
    · rw [hrs]
      cases hacc : accepts s with
      | true =>
        rw [List.filter_cons_of_pos (by exact hacc)]
        simp [TdvfSection.pages]
      | false =>
        rw [List.filter_cons_of_neg (by rw [hacc]; exact Bool.false_ne_true)]
        simp
    · intro r hr hacc
      rcases List.mem_cons.mp hr with rfl | hr
      · exact fun hzero => hne ⟨hacc, hzero⟩
      · exact hnonempty r hr hacc
    · intro d hd pg hpg
      show hobBase ss (if s.secType = tdvfSectionTdHob then s.memoryAddress else d) = _
      refine hbase _ ?_ pg hpg
      by_cases hhob : s.secType = tdvfSectionTdHob
      · rw [if_pos hhob, if_pos hhob]
        intro pg' hpg'
        cases hpg'
        simp only [pageSize] at haligned ⊢
        omega
      · rw [if_neg hhob, if_neg hhob]
        exact hd
    · intro pg hpg
      rcases hpage pg hpg with hin | ⟨r, hr, hacc, hpg⟩
      · by_cases hhob : s.secType = tdvfSectionTdHob
        · rw [if_pos hhob] at hin
          cases hin
          exact .inr ⟨s, List.mem_cons_self, by simp [accepts, hhob], rfl⟩
        · rw [if_neg hhob] at hin
          exact .inl hin
      · exact .inr ⟨r, List.mem_cons_of_mem _ hr, hacc, hpg⟩

lemma checkOverlap_ok :
    ∀ {l : List (Nat × Nat)} {e : Option Nat} {u : Unit}, checkOverlap e l = .ok u →
      (∀ x ∈ e, ∀ r ∈ l, x ≤ r.1) ∧ l.Pairwise fun a b => a.1 + a.2 ≤ b.1 := by
  intro l
  induction l with
  | nil => intro e u _; exact ⟨by simp, List.Pairwise.nil⟩
  | cons r l ih =>
    intro e u h
    simp only [checkOverlap, ok_iff] at h
    obtain ⟨_, hfirst, hrest⟩ := h
    obtain ⟨hafter, hpair⟩ := ih hrest
    have hnext : ∀ q ∈ l, r.1 + r.2 ≤ q.1 := hafter _ rfl
    refine ⟨?_, List.pairwise_cons.mpr ⟨hnext, hpair⟩⟩
    intro x hx q hq
    have hxr := hfirst x hx
    rcases List.mem_cons.mp hq with rfl | hq
    · omega
    · have := hnext q hq
      omega

def rangeBytes (basePage : Nat) (r : Nat × Nat) : Bytes :=
  Varint.put (r.1 - basePage) ++ Varint.put r.2

structure Witness (t : Tdvf) (w : Bytes) (ranges : List (Nat × Nat))
    (basePage tdHobPage : Nat) : Prop where
  ranges_perm : ranges.Perm t.acceptedPages
  nonempty : ∀ r ∈ t.acceptedPages, r.2 ≠ 0
  ordered : ranges.Pairwise fun a b => a.1 + a.2 ≤ b.1
  base_le : ∀ r ∈ ranges, basePage ≤ r.1
  base_mem : ∃ r ∈ t.acceptedPages, r.1 = basePage
  hob_le : basePage ≤ tdHobPage
  hob_mem : ∃ r ∈ t.acceptedPages, r.1 = tdHobPage
  hobBase : hobBase t.sections 0x809000 = tdHobPage * pageSize
  bytes : w = Varint.put basePage ++ (Varint.put (tdHobPage - basePage)
    ++ (Varint.put ranges.length ++ ranges.flatMap (rangeBytes basePage)))

lemma tdHobWitnessV1_ok (ht : t.WellFormed) {w : Bytes} (h : t.tdHobWitnessV1 = .ok w) :
    ∃ ranges basePage tdHobPage, t.Witness w ranges basePage tdHobPage := by
  unfold tdHobWitnessV1 at h
  simp only [ok_iff] at h
  obtain ⟨⟨rs, q⟩, hranges, _, hne, pg, hpg, _, hoverlap, _, hbase, rfl⟩ := h
  obtain ⟨hrs, hcounts, hhob, hpage⟩ := witnessRanges_ok ht.sections_valid hranges
  rw [List.nil_append] at hrs
  change rs = t.acceptedPages at hrs
  subst hrs
  have hperm : (sortByStart Prod.fst t.acceptedPages).Perm t.acceptedPages :=
    sortByStart_perm _
  obtain ⟨-, hordered⟩ := checkOverlap_ok hoverlap
  obtain ⟨first, rest, hsorted⟩ : ∃ first rest,
      sortByStart Prod.fst t.acceptedPages = first :: rest := by
    refine List.exists_cons_of_ne_nil fun hnil => hne ?_
    rw [hnil] at hperm
    exact hperm.nil_eq.symm
  rw [hsorted] at hordered hperm hbase ⊢
  obtain ⟨hfirst, -⟩ := List.pairwise_cons.mp hordered
  refine ⟨first :: rest, first.1, pg, hperm, ?_, hordered, ?_, ?_, Nat.not_lt.mp hbase,
    ?_, ?_, ?_⟩
  · intro r hr
    obtain ⟨s, hs, rfl⟩ := List.mem_map.mp hr
    obtain ⟨hmem, hacc⟩ := List.mem_filter.mp hs
    exact hcounts s hmem hacc
  · intro r hr
    rcases List.mem_cons.mp hr with rfl | hr
    · exact Nat.le_refl _
    · have := hfirst r hr
      omega
  · exact ⟨first, hperm.mem_iff.mp List.mem_cons_self, rfl⟩
  · rcases hpage pg hpg with hnone | ⟨s, hs, hacc, hpg⟩
    · cases hnone
    · exact ⟨s.pages, List.mem_map.mpr ⟨s, List.mem_filter.mpr ⟨hs, hacc⟩, rfl⟩, hpg⟩
  · exact hhob 0x809000 (by simp) pg hpg
  · simp only [List.headD_cons, List.append_assoc]
    rfl

-- == reading back

lemma pageAddress_ok {basePage page : Nat} {e : String} (hle : basePage ≤ page)
    (hfits : page * pageSize < 2 ^ 64) :
    pageAddress basePage (page - basePage) e = .ok (page * pageSize) := by
  have hsum : basePage + (page - basePage) = page := by omega
  have hpage : page < 2 ^ 64 := by
    simp only [pageSize] at hfits
    omega
  have hadd : checkedAdd basePage (page - basePage) = some page :=
    checkedAdd_eq_some.mpr ⟨by rw [hsum]; exact hpage, hsum⟩
  have hmul : checkedMul page 0x1000 = some (page * pageSize) :=
    checkedMul_eq_some.mpr ⟨hfits, rfl⟩
  simp only [pageAddress, hadd, Option.bind_some, hmul]
  rfl

lemma acceptWitnessRanges_ok {basePage : Nat} (rest : Bytes) :
    ∀ {rs : List (Nat × Nat)} (a : MemoryAcceptor),
      (∀ r ∈ rs, basePage ≤ r.1 ∧ r.1 * pageSize + r.2 * pageSize < 2 ^ 64) →
      acceptWitnessRanges basePage rs.length (rs.flatMap (rangeBytes basePage) ++ rest) a
        = .ok (rest, acceptAll (rs.map addressRange) a) := by
  intro rs
  induction rs with
  | nil => intro a _; rfl
  | cons r rs ih =>
    intro a hrs
    obtain ⟨hle, hfits⟩ := hrs r List.mem_cons_self
    have hstart : r.1 - basePage < 2 ^ 64 := by
      simp only [pageSize] at hfits
      omega
    have hcount : r.2 < 2 ^ 64 := by
      simp only [pageSize] at hfits
      omega
    have hmul : checkedMul r.2 0x1000 = some (r.2 * pageSize) := by
      have hlt : r.2 * pageSize < 2 ^ 64 := by omega
      exact checkedMul_eq_some.mpr ⟨hlt, rfl⟩
    have hadd : checkedAdd (r.1 * pageSize) (r.2 * pageSize)
        = some (r.1 * pageSize + r.2 * pageSize) :=
      checkedAdd_eq_some.mpr ⟨hfits, rfl⟩
    rw [List.flatMap_cons, rangeBytes, List.append_assoc, List.append_assoc,
      List.length_cons, acceptWitnessRanges, Varint.read_put _ _ hstart]
    simp only [bind, Except.bind]
    rw [Varint.read_put _ _ hcount]
    simp only [pageAddress_ok hle (by omega), hmul, hadd, Result.ofOption]
    exact ih _ fun q hq => hrs q (List.mem_cons_of_mem _ hq)

lemma measureTdHobFromWitnessData_eq (ht : t.WellFormed) {w : Bytes}
    {ranges : List (Nat × Nat)} {basePage tdHobPage : Nat}
    (hw : t.Witness w ranges basePage tdHobPage) (memorySize : Nat) :
    measureTdHobFromWitnessData w memorySize
      = measureHob (acceptAll (ranges.map addressRange) (new 0 memorySize)) memorySize
          (tdHobPage * pageSize) "TD HOB end-of-list address overflow" := by
  have hfits : ∀ r ∈ ranges, r.1 * pageSize + r.2 * pageSize < 2 ^ 64 :=
    fun r hr => acceptedPages_fits ht (hw.ranges_perm.mem_iff.mp hr)
  obtain ⟨hobRange, hhobMem, rfl⟩ := hw.hob_mem
  have hhobFits := acceptedPages_fits ht hhobMem
  have hhobLe := hw.hob_le
  have hlen : ranges.length ≤ 64 := by
    have hsections := ht.sections_le
    have hfilter := List.length_filter_le accepts t.sections
    have hpages : t.acceptedPages.length = (t.sections.filter accepts).length :=
      List.length_map _
    rw [hw.ranges_perm.length_eq, hpages]
    simp only [maxTdvfSections] at hsections
    omega
  have hbase : basePage < 2 ^ 64 := by
    simp only [pageSize] at hhobFits
    omega
  have hdelta : hobRange.1 - basePage < 2 ^ 64 := by
    simp only [pageSize] at hhobFits
    omega
  have hcount : ranges.length < 2 ^ 64 := by omega
  have hranges := acceptWitnessRanges_ok [] (new 0 memorySize)
    fun r hr => ⟨hw.base_le r hr, hfits r hr⟩
  rw [List.append_nil] at hranges
  rw [hw.bytes, measureTdHobFromWitnessData, Varint.read_put _ _ hbase]
  simp only [bind, Except.bind]
  rw [Varint.read_put _ _ hdelta]
  simp only []
  rw [Varint.read_put _ _ hcount]
  have hmax : ¬ ranges.length > maxTdHobWitnessRanges := Nat.not_lt.mpr hlen
  simp only [Result.ensure, if_pos hmax, pageAddress_ok hhobLe (by omega), hranges,
    if_true]

lemma measureHob_ok_congr {a : MemoryAcceptor} {memorySize base : Nat} {d : Bytes}
    (e e' : String) :
    measureHob a memorySize base e = .ok d ↔ measureHob a memorySize base e' = .ok d := by
  unfold measureHob
  simp only [ok_iff]

lemma measureTdHob_witness (ht : t.WellFormed) {w : Bytes}
    (hw : t.tdHobWitnessV1 = .ok w) (memorySize : Nat) (d : Bytes) :
    measureTdHobFromWitnessData w memorySize = .ok d ↔
      t.measureTdHob memorySize = .ok d := by
  obtain ⟨ranges, basePage, tdHobPage, hwit⟩ := tdHobWitnessV1_ok ht hw
  have hne : ∀ r ∈ ranges.map addressRange, r.1 < r.2 := by
    intro r hr
    obtain ⟨q, hq, rfl⟩ := List.mem_map.mp hr
    have hcount := hwit.nonempty q (hwit.ranges_perm.mem_iff.mp hq)
    simp only [addressRange, pageSize]
    omega
  have hdisj : (ranges.map addressRange).Pairwise Disjoint := by
    rw [List.pairwise_map]
    refine hwit.ordered.imp ?_
    intro a b hab
    left
    simp only [addressRange, pageSize]
    omega
  rw [measureTdHobFromWitnessData_eq ht hwit, measureTdHob_eq ht, hwit.hobBase,
    acceptAll_comm (hwit.ranges_perm.map addressRange) hne hdisj]
  exact measureHob_ok_congr _ _

end Tdvf

end Dstack.Mr
