/-
The language of destinations.

A destination is written as an application id, alone or with a dash
after it, and after the dash a port and a letter, each of which may be
missing (`Spelling`). The parser accepts exactly what can be written so
and returns what it means (`parseDstInfo_eq_ok`): the proof goes through
the parser from the inside out, the port, the part after the dash, the
split.

A spelling says more than its meaning: `app` and `app-` mean the same.
They are the only two.
-/
import Dstack.Gateway.Destination

namespace Dstack.Gateway

open Lib

-- == grammar

abbrev NamedPort := { n : Nat // 1 ≤ n ∧ n ≤ 65535 }

inductive Letter where
  | s
  | g
  deriving DecidableEq

def Letter.char : Letter → Char
  | .s => 's'
  | .g => 'g'

structure Spelling where
  app : List Char
  /-- After the dash, if there is one. -/
  rest : Option (Option NamedPort × Option Letter)
  app_ne : app ≠ []
  app_dash : '-' ∉ app

namespace Spelling

def portText (port : Option NamedPort) : List Char :=
  port.elim [] fun n => Nat.toDigits 10 n.val

def lastPart (port : Option NamedPort) (letter : Option Letter) : List Char :=
  portText port ++ letter.toList.map Letter.char

def text (w : Spelling) : List Char :=
  match w.rest with
  | none => w.app
  | some (port, letter) => w.app ++ '-' :: lastPart port letter

def render (w : Spelling) : String := String.ofList w.text

def port (w : Spelling) : Option NamedPort := w.rest.bind Prod.fst

def letter (w : Spelling) : Option Letter := w.rest.bind Prod.snd

def isTls (w : Spelling) : Bool := w.letter = some .s

def isH2 (w : Spelling) : Bool := w.letter = some .g

def meaning (w : Spelling) : DstInfo where
  appId := String.ofList w.app
  port := (w.port.map Subtype.val).getD (if w.isTls then 443 else 80)
  isTls := w.isTls
  isH2 := w.isH2

end Spelling

-- == the port

variable {cs : List Char}

lemma parseU16_of_digits (hne : cs ≠ []) (hdigits : ∀ c ∈ cs, c.isDigit = true) :
    parseU16 cs = parseDigitsBelow (2 ^ 16) 0 cs := by
  cases cs with
  | nil => exact absurd rfl hne
  | cons c cs =>
    have hplus : c ≠ '+' := by
      rintro rfl
      exact absurd (hdigits '+' (by simp)) (by decide)
    unfold parseU16 parseBelow
    split
    · rename_i h
      cases h
    · rename_i h
      exact absurd (List.cons.inj h).1 hplus
    · rename_i h
      exact absurd (List.cons.inj h).1 hplus
    · rfl

lemma parseCanonicalPort_eq_ok {n : Nat} :
    parseCanonicalPort cs = .ok n ↔ 1 ≤ n ∧ n ≤ 65535 ∧ cs = Nat.toDigits 10 n := by
  simp only [parseCanonicalPort, ok_iff, not_or, not_not, List.all_eq_true]
  constructor
  · rintro ⟨_, ⟨hhead, hdigits⟩, hparse⟩
    have hne : cs ≠ [] := by
      rintro rfl
      cases hparse
    rw [parseU16_of_digits hne hdigits, Decimal.parseDigitsBelow_eq_ok (by omega)] at hparse
    obtain ⟨m, hm, rfl⟩ := Decimal.canonical_iff.mp ⟨hne, hhead, hdigits⟩
    rw [Nat.ofDigitChars_ten_toDigits] at hparse
    obtain ⟨-, rfl, hlt⟩ := hparse
    exact ⟨hm, by omega, rfl⟩
  · rintro ⟨hlo, hhi, rfl⟩
    obtain ⟨hne, hhead, hdigits⟩ := Decimal.canonical_iff.mpr ⟨n, by omega, rfl⟩
    refine ⟨(), ⟨hhead, hdigits⟩, ?_⟩
    rw [parseU16_of_digits hne hdigits, Decimal.parseDigitsBelow_eq_ok (by omega)]
    exact ⟨hdigits, Nat.ofDigitChars_ten_toDigits, by omega⟩

-- == after the dash

lemma splitSuffix_snoc (c : Char) (cs : List Char) : splitSuffix c (cs ++ [c]) = (cs, true) := by
  simp [splitSuffix]

lemma splitSuffix_of_ne {c : Char} (h : cs.getLast? ≠ some c) :
    splitSuffix c cs = (cs, false) :=
  if_neg h

lemma splitSuffix_cases (c : Char) (cs : List Char) :
    (∃ front, cs = front ++ [c] ∧ splitSuffix c cs = (front, true))
      ∨ (cs.getLast? ≠ some c ∧ splitSuffix c cs = (cs, false)) := by
  by_cases h : cs.getLast? = some c
  · left
    obtain ⟨front, rfl⟩ := List.getLast?_eq_some_iff.mp h
    exact ⟨front, rfl, splitSuffix_snoc c front⟩
  · exact Or.inr ⟨h, splitSuffix_of_ne h⟩

open Spelling in
lemma parseOptionalPort_eq_ok {o : Option Nat} :
    parseOptionalPort cs = .ok o
      ↔ ∃ port : Option NamedPort, cs = portText port ∧ port.map Subtype.val = o := by
  unfold parseOptionalPort
  by_cases hnil : cs = []
  · rw [if_pos hnil, pure_eq_ok]
    constructor
    · intro h
      exact ⟨none, hnil, h⟩
    · rintro ⟨port, hport, rfl⟩
      cases port with
      | none => rfl
      | some n => exact absurd (hport.symm.trans hnil) Nat.toDigits_ne_nil
  · rw [if_neg hnil, map_eq_ok]
    constructor
    · rintro ⟨n, hn, rfl⟩
      obtain ⟨hlo, hhi, hcs⟩ := parseCanonicalPort_eq_ok.mp hn
      exact ⟨some ⟨n, hlo, hhi⟩, hcs, rfl⟩
    · rintro ⟨port, hport, rfl⟩
      cases port with
      | none => exact absurd hport hnil
      | some n => exact ⟨n.val, parseCanonicalPort_eq_ok.mpr ⟨n.2.1, n.2.2, hport⟩, rfl⟩

namespace Spelling

lemma portText_getLast {port : Option NamedPort} {c : Char} (hc : c.isDigit = false) :
    (portText port).getLast? ≠ some c := by
  intro h
  cases port with
  | none => cases h
  | some n =>
    have hdigit := Nat.isDigit_of_mem_toDigits (by omega) (by omega) (List.mem_of_getLast? h)
    rw [hc] at hdigit
    cases hdigit

lemma lastPart_none (port : Option NamedPort) : lastPart port none = portText port := by
  simp [lastPart]

lemma lastPart_some (port : Option NamedPort) (letter : Letter) :
    lastPart port (some letter) = portText port ++ [letter.char] := by
  simp [lastPart]

end Spelling

open Spelling in
lemma parseLastPart_eq_ok {l : LastPart} :
    parseLastPart cs = .ok l
      ↔ ∃ (port : Option NamedPort) (letter : Option Letter), cs = lastPart port letter
        ∧ l = ⟨port.map Subtype.val, letter = some .s, letter = some .g⟩ := by
  unfold parseLastPart
  constructor
  · intro h
    rcases splitSuffix_cases 'g' cs with ⟨front, rfl, hg⟩ | ⟨-, hg⟩
    · rcases splitSuffix_cases 's' front with ⟨front', rfl, hs⟩ | ⟨-, hs⟩
      · simp only [hg, hs, ok_iff] at h
        obtain ⟨_, hboth, -⟩ := h
        exact absurd ⟨trivial, trivial⟩ hboth
      · simp only [hg, hs, ok_iff] at h
        obtain ⟨_, -, o, ho, rfl⟩ := h
        obtain ⟨port, rfl, rfl⟩ := parseOptionalPort_eq_ok.mp ho
        exact ⟨port, some .g, (lastPart_some port .g).symm, rfl⟩
    · rcases splitSuffix_cases 's' cs with ⟨front, rfl, hs⟩ | ⟨-, hs⟩
      · simp only [hg, hs, ok_iff] at h
        obtain ⟨_, -, o, ho, rfl⟩ := h
        obtain ⟨port, rfl, rfl⟩ := parseOptionalPort_eq_ok.mp ho
        exact ⟨port, some .s, (lastPart_some port .s).symm, rfl⟩
      · simp only [hg, hs, ok_iff] at h
        obtain ⟨_, -, o, ho, rfl⟩ := h
        obtain ⟨port, rfl, rfl⟩ := parseOptionalPort_eq_ok.mp ho
        exact ⟨port, none, (lastPart_none port).symm, rfl⟩
  · rintro ⟨port, letter, rfl, rfl⟩
    have hport : parseOptionalPort (portText port) = .ok (port.map Subtype.val) :=
      parseOptionalPort_eq_ok.mpr ⟨port, rfl, rfl⟩
    have hnog : splitSuffix 'g' (portText port) = (portText port, false) :=
      splitSuffix_of_ne (portText_getLast (by decide))
    have hnos : splitSuffix 's' (portText port) = (portText port, false) :=
      splitSuffix_of_ne (portText_getLast (by decide))
    cases letter with
    | none =>
      rw [lastPart_none, hnog]
      simp only [hnos, ok_iff, hport]
      exact ⟨(), by decide, _, rfl, rfl⟩
    | some letter =>
      rw [lastPart_some]
      cases letter with
      | s =>
        have hsg : splitSuffix 'g' (portText port ++ ['s']) = (portText port ++ ['s'], false) :=
          splitSuffix_of_ne (by simp)
        simp only [Letter.char, hsg, splitSuffix_snoc, ok_iff, hport]
        exact ⟨(), by decide, _, rfl, rfl⟩
      | g =>
        simp only [Letter.char, splitSuffix_snoc, hnos, ok_iff, hport]
        exact ⟨(), by decide, _, rfl, rfl⟩

-- == the split

lemma splitOn_cases (c : Char) (cs : List Char) :
    (c ∉ cs ∧ cs.splitOn c = [cs])
      ∨ ∃ before after, c ∉ before ∧ cs = before ++ c :: after
        ∧ cs.splitOn c = before :: after.splitOn c := by
  by_cases h : c ∈ cs
  · obtain ⟨before, after, hcs, hbefore⟩ := List.eq_append_cons_of_mem h
    refine Or.inr ⟨before, after, hbefore, hcs, ?_⟩
    rw [hcs, List.splitOn_append_cons_self_of_not_mem hbefore]
  · exact Or.inl ⟨h, List.splitOn_eq_singleton h⟩

lemma Spelling.dash_notMem_lastPart (port : Option NamedPort) (letter : Option Letter) :
    '-' ∉ lastPart port letter := by
  intro h
  rw [lastPart, List.mem_append] at h
  rcases h with h | h
  · cases port with
    | none => cases h
    | some n =>
      have hdigit := Nat.isDigit_of_mem_toDigits (by omega) (by omega) h
      revert hdigit
      decide
  · cases letter with
    | none => cases h
    | some letter => cases letter <;> simp [Letter.char] at h

lemma parseDstInfo_eq_ok {subdomain : String} {d : DstInfo} :
    parseDstInfo subdomain = .ok d ↔ ∃ w : Spelling, w.render = subdomain ∧ w.meaning = d := by
  constructor
  · intro h
    unfold parseDstInfo at h
    rcases splitOn_cases '-' subdomain.toList with
      ⟨hdash, hsplit⟩ | ⟨app, rest, hdash, htext, hsplit⟩
    · rw [hsplit] at h
      simp only [ok_iff] at h
      obtain ⟨_, hne, l, hl, _, -, rfl⟩ := h
      rw [← Except.ok.inj hl]
      refine ⟨⟨subdomain.toList, none, hne, hdash⟩, ?_, rfl⟩
      exact String.ofList_toList
    · rw [hsplit] at h
      simp only [ok_iff] at h
      obtain ⟨_, hne, l, hl, _, htail, rfl⟩ := h
      rcases splitOn_cases '-' rest with ⟨-, hlast⟩ | ⟨_, more, -, -, hmore⟩
      · rw [hlast] at hl
        obtain ⟨port, letter, rfl, rfl⟩ := parseLastPart_eq_ok.mp hl
        refine ⟨⟨app, some (port, letter), hne, hdash⟩, ?_, rfl⟩
        show String.ofList (app ++ '-' :: Spelling.lastPart port letter) = subdomain
        rw [← htext]
        exact String.ofList_toList
      · -- a second dash
        rw [hmore] at htail
        exact absurd htail (List.splitOn_ne_nil '-' more)
  · rintro ⟨⟨app, rest, hne, hdash⟩, rfl, rfl⟩
    unfold parseDstInfo Spelling.render
    rw [String.toList_ofList]
    cases rest with
    | none =>
      dsimp only [Spelling.text]
      rw [List.splitOn_eq_singleton hdash]
      simp only [ok_iff]
      exact ⟨(), hne, _, rfl, (), rfl, rfl⟩
    | some rest =>
      obtain ⟨port, letter⟩ := rest
      dsimp only [Spelling.text]
      rw [List.splitOn_append_cons_self_of_not_mem hdash,
        List.splitOn_eq_singleton (Spelling.dash_notMem_lastPart port letter)]
      simp only [ok_iff]
      exact ⟨(), hne, _, parseLastPart_eq_ok.mpr ⟨port, letter, rfl, rfl⟩, (), rfl, rfl⟩

-- == one spelling, one text

namespace Spelling

lemma letter_eq_of_flags {w w' : Spelling} (htls : w.isTls = w'.isTls) (hh2 : w.isH2 = w'.isH2) :
    w.letter = w'.letter := by
  unfold isTls at htls
  unfold isH2 at hh2
  rcases hw : w.letter with _ | _ | _ <;> rcases hw' : w'.letter with _ | _ | _ <;>
    simp_all

lemma text_eq_or_dash {w w' : Spelling} (happ : w.app = w'.app) (hport : w.port = w'.port)
    (hletter : w.letter = w'.letter) :
    w.text = w'.text
      ∨ (w.port = none ∧ w.letter = none
        ∧ ((w.rest = none ∧ w'.text = w.text ++ ['-'])
          ∨ (w'.rest = none ∧ w.text = w'.text ++ ['-']))) := by
  obtain ⟨app, rest, hne, hdash⟩ := w
  obtain ⟨app', rest', hne', hdash'⟩ := w'
  replace happ : app = app' := happ
  subst happ
  cases rest with
  | none =>
    cases rest' with
    | none => exact Or.inl rfl
    | some rest' =>
      obtain ⟨port, letter⟩ := rest'
      replace hport : none = port := hport
      replace hletter : none = letter := hletter
      subst hport hletter
      exact Or.inr ⟨rfl, rfl, Or.inl ⟨rfl, rfl⟩⟩
  | some rest =>
    obtain ⟨port, letter⟩ := rest
    cases rest' with
    | none =>
      replace hport : port = none := hport
      replace hletter : letter = none := hletter
      subst hport hletter
      exact Or.inr ⟨rfl, rfl, Or.inr ⟨rfl, rfl⟩⟩
    | some rest' =>
      obtain ⟨port', letter'⟩ := rest'
      replace hport : port = port' := hport
      replace hletter : letter = letter' := hletter
      subst hport hletter
      exact Or.inl rfl

end Spelling

/-- The parser accepts exactly the spellings of destinations and returns
what they mean, it rejects every other text, and two accepted texts of
one application, explicit port and flags are the same but for a dash
with nothing after it. -/
theorem parseDstInfo_accepts_spellings (subdomain : String) :
    (∀ d, parseDstInfo subdomain = .ok d
        ↔ ∃ w : Spelling, w.render = subdomain ∧ w.meaning = d)
      ∧ ((∀ w : Spelling, w.render ≠ subdomain) → ∃ e, parseDstInfo subdomain = .error e)
      ∧ ∀ w w' : Spelling, w.render = subdomain → w.app = w'.app → w.port = w'.port →
        w.isTls = w'.isTls → w.isH2 = w'.isH2 →
        w'.render = subdomain
          ∨ (w.port = none ∧ w.letter = none
            ∧ ((w.rest = none ∧ w'.render = subdomain ++ "-")
              ∨ (w'.rest = none ∧ subdomain = w'.render ++ "-"))) := by
  refine ⟨fun d => parseDstInfo_eq_ok, ?_, ?_⟩
  · intro hnone
    cases hparse : parseDstInfo subdomain with
    | error e => exact ⟨e, rfl⟩
    | ok d =>
      obtain ⟨w, hw, -⟩ := parseDstInfo_eq_ok.mp hparse
      exact absurd hw (hnone w)
  · intro w w' hw happ hport htls hh2
    have hletter := Spelling.letter_eq_of_flags htls hh2
    have hdash : String.ofList ['-'] = "-" := rfl
    subst hw
    unfold Spelling.render
    rcases Spelling.text_eq_or_dash happ hport hletter with h | ⟨hp, hl, ⟨hr, h⟩ | ⟨hr, h⟩⟩
    · exact Or.inl (by rw [h])
    · exact Or.inr ⟨hp, hl, Or.inl ⟨hr, by rw [h, String.ofList_append, hdash]⟩⟩
    · exact Or.inr ⟨hp, hl, Or.inr ⟨hr, by rw [h, String.ofList_append, hdash]⟩⟩

def fullSpelling : Spelling where
  app := ['a', 'p', 'p']
  rest := some (some ⟨8443, by decide⟩, some .s)
  app_ne := by decide
  app_dash := by decide

theorem full_spelling_is_accepted :
    parseDstInfo "app-8443s" = .ok ⟨"app", 8443, true, false⟩ :=
  ((parseDstInfo_accepts_spellings "app-8443s").1 _).mpr ⟨fullSpelling, by decide +kernel, rfl⟩

/-- A dash with nothing after it says nothing. -/
theorem dash_says_nothing :
    ∃ w w' : Spelling, parseDstInfo w.render = .ok w.meaning
      ∧ parseDstInfo w'.render = .ok w'.meaning
      ∧ w.app = w'.app ∧ w.port = w'.port ∧ w.isTls = w'.isTls ∧ w.isH2 = w'.isH2
      ∧ w.render = "app" ∧ w'.render = "app-" :=
  ⟨{ fullSpelling with rest := none }, { fullSpelling with rest := some (none, none) },
    parseDstInfo_eq_ok.mpr ⟨_, rfl, rfl⟩, parseDstInfo_eq_ok.mpr ⟨_, rfl, rfl⟩,
    rfl, rfl, rfl, rfl, rfl, rfl⟩

end Dstack.Gateway
