/-
Certification authority authorisation: which issuers a set of CAA records
lets issue for a name (RFC 8659).

The records that count for a name are its own, or those of the closest
name above it that has any. `issue` restricts to the union of its values,
a wildcard goes by `issuewild` where there is one, and a set without
either restricts nobody. So a set is not monotone in its records: the
first `issue` takes rights away, and each further one can only add.
-/
import Dstack.Lib.Text

namespace Dstack.Lib.Caa

/-- The name of a property: letters and digits, at least one. -/
structure Tag where
  text : String
  nonempty : text.toList ≠ []
  alphanumeric : ∀ c ∈ text.toList, c.isAlphanum = true
  deriving DecidableEq

def Tag.issue : Tag := ⟨"issue", by decide, List.all_eq_true.mp rfl⟩
def Tag.issuewild : Tag := ⟨"issuewild", by decide, List.all_eq_true.mp rfl⟩
def Tag.iodef : Tag := ⟨"iodef", by decide, List.all_eq_true.mp rfl⟩

/-- The data of a CAA record. -/
structure Property where
  flags : Nat
  tag : Tag
  value : String
  deriving DecidableEq

/-- Names and tags compare without regard to case. -/
def lower (s : String) : List Char := s.toList.map Char.toLower

/-- The property has the tag. -/
def Property.tagIs (p : Property) (tag : Tag) : Bool := lower p.tag.text = lower tag.text

/-- A critical property that an issuer does not know. -/
def Property.isObstacle (p : Property) : Bool :=
  128 ≤ p.flags % 256 ∧ ¬(p.tagIs .issue || p.tagIs .issuewild || p.tagIs .iodef)

/-- Whom a value admits, and under which parameters. -/
structure Grant where
  issuer : List Char
  parameters : List Char
  deriving DecidableEq

/-- The white space of a value. -/
def isBlank (c : Char) : Bool := c = ' ' ∨ c = '\t'

/-- A text without the blanks around it. -/
def trimBlanks (cs : List Char) : List Char :=
  ((cs.dropWhile isBlank).reverse.dropWhile isBlank).reverse

/-- What a value admits: what stands before its first semicolon, if anything
does. -/
def grantOf (value : String) : Option Grant :=
  let issuer := trimBlanks (value.toList.takeWhile (· ≠ ';'))
  let parameters := trimBlanks ((value.toList.dropWhile (· ≠ ';')).drop 1)
  if issuer = [] then none else some ⟨issuer, parameters⟩

/-- What a certificate is asked for. -/
inductive Kind where
  | plain
  | wildcard
  deriving DecidableEq

section Sets

variable (rr : List Property)

/-- There is a record with the tag. -/
def Restricts (tag : Tag) : Prop := ∃ p ∈ rr, p.tagIs tag = true

/-- A record with the tag admits the issuer. -/
def Grants (tag : Tag) (g : Grant) : Prop :=
  ∃ p ∈ rr, p.tagIs tag = true ∧ grantOf p.value = some g

/-- The set lets the issuer issue. -/
def Allows : Kind → Grant → Prop
  | .plain, g =>
    (∀ p ∈ rr, p.isObstacle = false) ∧ (Restricts rr .issue → Grants rr .issue g)
  | .wildcard, g =>
    (∀ p ∈ rr, p.isObstacle = false)
      ∧ (Restricts rr .issuewild → Grants rr .issuewild g)
      ∧ (¬Restricts rr .issuewild → Restricts rr .issue → Grants rr .issue g)

end Sets

variable {rr rr' : List Property} {g : Grant} {k : Kind}

lemma Grants.restricts {tag : Tag} (h : Grants rr tag g) : Restricts rr tag := by
  obtain ⟨p, hp, htag, -⟩ := h
  exact ⟨p, hp, htag⟩

lemma Allows.of_denial {p : Property} (hp : grantOf p.value = none)
    (h : Allows (rr ++ [p]) k g) : Allows rr k g := by
  have hgrants : ∀ {tag}, Grants (rr ++ [p]) tag g → Grants rr tag g := by
    rintro tag ⟨q, hq, htag, hgrant⟩
    rcases List.mem_append.mp hq with hq | hq
    · exact ⟨q, hq, htag, hgrant⟩
    · rw [List.mem_singleton.mp hq, hp] at hgrant
      cases hgrant
  have hrestricts : ∀ {tag}, Restricts rr tag → Restricts (rr ++ [p]) tag := by
    rintro tag ⟨q, hq, htag⟩
    exact ⟨q, List.mem_append_left _ hq, htag⟩
  have hclear : ∀ {q}, q ∈ rr → q ∈ rr ++ [p] := fun hq => List.mem_append_left _ hq
  cases k with
  | plain => exact ⟨fun q hq => h.1 q (hclear hq), fun hr => hgrants (h.2 (hrestricts hr))⟩
  | wildcard =>
    refine ⟨fun q hq => h.1 q (hclear hq), fun hr => hgrants (h.2.1 (hrestricts hr)), ?_⟩
    intro hnot hr
    by_cases hwild : Restricts (rr ++ [p]) .issuewild
    · exact absurd (hgrants (h.2.1 hwild)).restricts hnot
    · exact hgrants (h.2.2 hwild (hrestricts hr))

lemma Allows.of_subset {own : Prop} (hissue : Restricts rr' .issue)
    (hwild : Restricts rr' .issuewild) (hclear : (∀ p ∈ rr', p.isObstacle = false) →
      ∀ p ∈ rr, p.isObstacle = false)
    (hsub : ∀ p ∈ rr', p ∈ rr ∨ (grantOf p.value = some g → own))
    (h : Allows rr' k g) : Allows rr k g ∨ own := by
  have hgrants : ∀ {tag}, Grants rr' tag g → Grants rr tag g ∨ own := by
    rintro tag ⟨p, hp, htag, hgrant⟩
    rcases hsub p hp with hp | hp
    · exact .inl ⟨p, hp, htag, hgrant⟩
    · exact .inr (hp hgrant)
  cases k with
  | plain =>
    rcases hgrants (h.2 hissue) with hg | hg
    · exact .inl ⟨hclear h.1, fun _ => hg⟩
    · exact .inr hg
  | wildcard =>
    rcases hgrants (h.2.1 hwild) with hg | hg
    · exact .inl ⟨hclear h.1, fun _ => hg, fun hnot => absurd hg.restricts hnot⟩
    · exact .inr hg

/-- An `issue` record that grants nothing denies everything by itself. -/
lemma not_allows_denial {p : Property} (htag : p.tagIs .issue = true)
    (hp : grantOf p.value = none) (hwild : p.tagIs .issuewild = false) :
    ¬Allows [p] k g := by
  have hissue : Restricts [p] .issue := ⟨p, List.mem_singleton_self p, htag⟩
  have hno : ¬Grants [p] .issue g := by
    rintro ⟨q, hq, -, hgrant⟩
    rw [List.mem_singleton.mp hq, hp] at hgrant
    cases hgrant
  have hnowild : ¬Restricts [p] .issuewild := by
    rintro ⟨q, hq, hq'⟩
    rw [List.mem_singleton.mp hq, hwild] at hq'
    cases hq'
  intro h
  cases k with
  | plain => exact hno (h.2 hissue)
  | wildcard => exact hno (h.2.2 hnowild hissue)

-- == climbing the tree

/-- The labels of a name, lowest first. -/
abbrev Name := List (List Char)

/-- The labels of a name as text. -/
def labels (name : String) : Name :=
  ((lower name).reverse.dropWhile (· = '.')).reverse.splitOnP (· = '.')

/-- What the records of a tree of names allow for one of them: the set of
the closest name that has one, and where no name has one, everything. -/
def Permits (rrset : Name → List Property) (k : Kind) (g : Grant) : Name → Prop
  | [] => rrset [] ≠ [] → Allows (rrset []) k g
  | label :: up =>
    if rrset (label :: up) = [] then Permits rrset k g up
    else Allows (rrset (label :: up)) k g

lemma Permits.of_change {rrset rrset' : Name → List Property} {n : Name} {own : Prop}
    (hother : ∀ m, m ≠ n → rrset' m = rrset m) (hne : rrset' n ≠ [])
    (hchange : Allows (rrset' n) k g → (rrset n ≠ [] ∧ Allows (rrset n) k g) ∨ own) :
    ∀ m, Permits rrset' k g m → Permits rrset k g m ∨ own
  | [] => by
      intro h
      by_cases hm : ([] : Name) = n
      · subst hm
        rcases hchange (h hne) with ⟨-, hold⟩ | hown
        · exact .inl fun _ => hold
        · exact .inr hown
      · rw [Permits, hother [] hm] at h
        exact .inl h
  | label :: up => by
      intro h
      by_cases hm : (label :: up) = n
      · subst hm
        rw [Permits, if_neg hne] at h
        rcases hchange h with ⟨hold, hallows⟩ | hown
        · rw [Permits, if_neg hold]
          exact .inl hallows
        · exact .inr hown
      · rw [Permits, hother _ hm] at h
        rw [Permits]
        split at h
        next hempty =>
          rw [if_pos hempty]
          exact Permits.of_change hother hne hchange up h
        next hsome =>
          rw [if_neg hsome]
          exact .inl h

end Dstack.Lib.Caa
