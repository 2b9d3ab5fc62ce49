/-
`sha256sum.txt`, the file whose digest is the image identity
(`dstack-types/src/sha256sum.rs`).

One shape of line is accepted: a lowercase digest, two spaces and a
plain file name. What the file binds rests on two facts about every
parse that succeeds (`parse_wellFormed`): no name is listed twice, so a
name has one digest, and every name is a file directly in the image
root other than the list itself.
-/
import Dstack.Lib.Text

namespace Dstack.Sha256sum

open Lib

structure Entry where
  hash : Bytes
  name : String
  deriving DecidableEq

def isAsciiAlphanumeric (c : Char) : Bool :=
  ('0' ≤ c ∧ c ≤ '9') ∨ ('a' ≤ c ∧ c ≤ 'z') ∨ ('A' ≤ c ∧ c ≤ 'Z')

def isValidName (name : List Char) : Bool :=
  name.head?.any isAsciiAlphanumeric
    && name.all (fun c => isAsciiAlphanumeric c || c = '.' || c = '_' || c = '-')
    && name ≠ "sha256sum.txt".toList

/-- Cut at the first two adjacent spaces (`split_once("  ")`). -/
def splitOnce : List Char → Option (List Char × List Char)
  | ' ' :: ' ' :: r => some ([], r)
  | c :: r => (splitOnce r).map fun (before, after) => (c :: before, after)
  | [] => none

def parseHash (hashHex : List Char) : Option Bytes :=
  if hashHex.all (fun c => ('0' ≤ c ∧ c ≤ '9') ∨ ('a' ≤ c ∧ c ≤ 'f')) then
    match hexDecode (String.ofList hashHex) with
    | .ok hash => if hash.length = 32 then some hash else none
    | .error _ => none
  else none

def parseLine (line : List Char) : Option Entry :=
  match splitOnce line with
  | none => none
  | some (hashHex, name) =>
    if isValidName name then
      (parseHash hashHex).map fun hash => { hash, name := String.ofList name }
    else none

def parseLines : Nat → List Entry → List (List Char) → Result (List Entry)
  | _, entries, [] => .ok entries
  | lineNo, entries, line :: lines => do
      let entry ← Result.ofOption (parseLine line)
        ("sha256sum.txt line " ++ toString lineNo
          ++ " is not `<lowercase sha256>  <file name>`")
      Result.ensure (∀ e ∈ entries, e.name ≠ entry.name)
        ("sha256sum.txt line " ++ toString lineNo ++ " repeats " ++ entry.name)
      parseLines (lineNo + 1) (entries ++ [entry]) lines

def textBody (checksumFile : Bytes) : Option (List Char) :=
  match fromUtf8 checksumFile with
  | none => none
  | some text =>
    if text.toList.getLast? = some '\n' then some text.toList.dropLast else none

def parse (checksumFile : Bytes) : Result (List Entry) := do
  let body ← Result.ofOption (textBody checksumFile)
    "sha256sum.txt is not newline-terminated text"
  parseLines 1 [] (body.splitOn '\n')

def entryHash (checksumFile : Bytes) (filename : String) : Result Bytes := do
  let entries ← parse checksumFile
  let entry ← Result.ofOption (entries.find? (·.name = filename))
    ("sha256sum.txt is missing " ++ filename)
  pure entry.hash

-- == what a parse yields

structure WellFormed (entries : List Entry) : Prop where
  nodup : (entries.map (·.name)).Nodup
  valid : ∀ e ∈ entries, isValidName e.name.toList = true
  hash_length : ∀ e ∈ entries, e.hash.length = 32

lemma parseHash_length {hashHex : List Char} {hash : Bytes}
    (h : parseHash hashHex = some hash) : hash.length = 32 := by
  unfold parseHash at h
  split at h
  · split at h
    · split at h
      next hlen => rw [← Option.some.inj h]; exact hlen
      next => cases h
    · cases h
  · cases h

lemma parseLine_valid {line : List Char} {e : Entry}
    (h : parseLine line = some e) :
    isValidName e.name.toList = true ∧ e.hash.length = 32 := by
  unfold parseLine at h
  split at h
  · cases h
  · split at h
    next hname =>
      obtain ⟨hash, hhash, rfl⟩ := Option.map_eq_some_iff.mp h
      exact ⟨by simpa using hname, parseHash_length hhash⟩
    next => cases h

lemma parseLines_wellFormed :
    ∀ {lines : List (List Char)} {lineNo : Nat} {acc entries : List Entry},
      WellFormed acc → parseLines lineNo acc lines = .ok entries →
      WellFormed entries := by
  intro lines
  induction lines with
  | nil =>
    intro lineNo acc entries hacc h
    rw [← Except.ok.inj h]
    exact hacc
  | cons line lines ih =>
    intro lineNo acc entries hacc h
    rw [parseLines] at h
    simp only [ok_iff] at h
    obtain ⟨entry, hentry, _, hnew, hrest⟩ := h
    obtain ⟨hname, hlen⟩ := parseLine_valid hentry
    refine ih ⟨?_, ?_, ?_⟩ hrest
    · rw [List.map_append, List.nodup_append]
      refine ⟨hacc.nodup, by simp, ?_⟩
      intro a ha b hb
      obtain ⟨e, he, rfl⟩ := List.mem_map.mp ha
      rw [List.map_singleton, List.mem_singleton] at hb
      rw [hb]
      exact hnew e he
    · intro e he
      rcases List.mem_append.mp he with he | he
      · exact hacc.valid e he
      · rw [List.mem_singleton.mp he]
        exact hname
    · intro e he
      rcases List.mem_append.mp he with he | he
      · exact hacc.hash_length e he
      · rw [List.mem_singleton.mp he]
        exact hlen

lemma parse_wellFormed {checksumFile : Bytes} {entries : List Entry}
    (h : parse checksumFile = .ok entries) : WellFormed entries := by
  unfold parse at h
  simp only [bind_eq_ok] at h
  obtain ⟨body, -, hlines⟩ := h
  exact parseLines_wellFormed ⟨by simp, by simp, by simp⟩ hlines

-- == what is parsed

/-- The line of an entry, as `sha256sum` prints it. -/
def renderLine (e : Entry) : List Char :=
  e.hash.flatMap hexByte ++ ' ' :: ' ' :: e.name.toList

def render (entries : List Entry) : String :=
  String.ofList (entries.flatMap fun e => renderLine e ++ ['\n'])

lemma splitOnce_append {a b : List Char} (ha : ' ' ∉ a) :
    splitOnce (a ++ ' ' :: ' ' :: b) = some (a, b) := by
  induction a with
  | nil => rfl
  | cons c a ih =>
    have hc : c ≠ ' ' := fun h => ha (h ▸ List.mem_cons_self)
    have hrest := ih fun h => ha (List.mem_cons_of_mem _ h)
    rw [List.cons_append, splitOnce, hrest]
    · rfl
    · intro r h _
      exact hc h

lemma hexDigit_lower : ∀ n < 16,
    (('0' ≤ hexDigit n ∧ hexDigit n ≤ '9') ∨ ('a' ≤ hexDigit n ∧ hexDigit n ≤ 'f'))
      ∧ hexDigit n ≠ ' ' ∧ hexDigit n ≠ '\n' := by
  decide

lemma mem_hexDigits {hash : Bytes} {c : Char} (h : c ∈ hash.flatMap hexByte) :
    ∃ n < 16, c = hexDigit n := by
  obtain ⟨b, -, hc⟩ := List.mem_flatMap.mp h
  have hlt := b.toNat_lt
  simp only [hexByte, List.mem_cons, List.not_mem_nil, or_false] at hc
  rcases hc with rfl | rfl
  · exact ⟨b.toNat / 16, by omega, rfl⟩
  · exact ⟨b.toNat % 16, by omega, rfl⟩

lemma parseHash_hexEncode {hash : Bytes} (h : hash.length = 32) :
    parseHash (hash.flatMap hexByte) = some hash := by
  have hlower : (hash.flatMap hexByte).all
      (fun c => ('0' ≤ c ∧ c ≤ '9') ∨ ('a' ≤ c ∧ c ≤ 'f')) = true := by
    rw [List.all_eq_true]
    intro c hc
    obtain ⟨n, hn, rfl⟩ := mem_hexDigits hc
    exact decide_eq_true (hexDigit_lower n hn).1
  have hdecode : hexDecode (String.ofList (hash.flatMap hexByte)) = .ok hash :=
    hexDecode_hexEncode hash
  unfold parseHash
  rw [if_pos hlower, hdecode]
  exact if_pos h

lemma parseLine_renderLine {e : Entry} (hname : isValidName e.name.toList = true)
    (hhash : e.hash.length = 32) : parseLine (renderLine e) = some e := by
  have hspace : ' ' ∉ e.hash.flatMap hexByte := by
    intro h
    obtain ⟨n, hn, hc⟩ := mem_hexDigits h
    exact (hexDigit_lower n hn).2.1 hc.symm
  unfold parseLine renderLine
  rw [splitOnce_append hspace]
  simp only [if_pos hname, parseHash_hexEncode hhash, Option.map_some, String.ofList_toList]

lemma newline_notMem_renderLine {e : Entry} (hname : isValidName e.name.toList = true) :
    '\n' ∉ renderLine e := by
  simp only [isValidName, Bool.and_eq_true, List.all_eq_true] at hname
  unfold renderLine
  rw [List.mem_append, List.mem_cons, List.mem_cons]
  rintro (h | h | h | h)
  · obtain ⟨n, hn, hc⟩ := mem_hexDigits h
    exact (hexDigit_lower n hn).2.2 hc.symm
  · exact absurd h (by decide)
  · exact absurd h (by decide)
  · exact absurd (hname.1.2 _ h) (by decide)

lemma splitOn_lines {lines : List (List Char)} (hne : lines ≠ [])
    (h : ∀ l ∈ lines, '\n' ∉ l) :
    (lines.flatMap (· ++ ['\n'])).getLast? = some '\n'
      ∧ (lines.flatMap (· ++ ['\n'])).dropLast.splitOn '\n' = lines := by
  induction lines with
  | nil => exact absurd rfl hne
  | cons l lines ih =>
    have hl := h l List.mem_cons_self
    rw [List.flatMap_cons]
    cases lines with
    | nil =>
      rw [List.flatMap_nil, List.append_nil, List.getLast?_concat, List.dropLast_concat,
        List.splitOn_eq_singleton hl]
      exact ⟨rfl, rfl⟩
    | cons m lines =>
      have ih := ih (List.cons_ne_nil _ _) fun l' hl' => h l' (List.mem_cons_of_mem _ hl')
      have hrest : (m :: lines).flatMap (· ++ ['\n']) ≠ [] := by
        rw [List.flatMap_cons, List.append_assoc]
        exact List.append_ne_nil_of_right_ne_nil _ (List.cons_ne_nil _ _)
      rw [List.getLast?_append_of_ne_nil _ hrest, List.dropLast_append_of_ne_nil hrest,
        List.append_assoc, List.singleton_append, List.splitOn_append_cons_self,
        List.splitOn_eq_singleton hl, ih.2]
      exact ⟨ih.1, rfl⟩

lemma parseLines_render {entries : List Entry} :
    ∀ {acc : List Entry} {lineNo : Nat}, WellFormed (acc ++ entries) →
      parseLines lineNo acc (entries.map renderLine) = .ok (acc ++ entries) := by
  induction entries with
  | nil =>
    intro acc lineNo hwf
    rw [List.append_nil]
    rfl
  | cons e entries ih =>
    intro acc lineNo hwf
    have hmem : e ∈ acc ++ e :: entries := List.mem_append_right _ List.mem_cons_self
    have hfresh : ∀ e' ∈ acc, e'.name ≠ e.name := by
      intro e' he'
      have hnodup := hwf.nodup
      rw [List.map_append, List.nodup_append] at hnodup
      exact hnodup.2.2 _ (List.mem_map_of_mem he') _
        (List.mem_map_of_mem List.mem_cons_self)
    rw [List.map_cons, parseLines]
    simp only [ok_iff]
    refine ⟨e, parseLine_renderLine (hwf.valid e hmem) (hwf.hash_length e hmem), (),
      hfresh, ?_⟩
    have hassoc : acc ++ e :: entries = acc ++ [e] ++ entries := by simp
    rw [hassoc] at hwf ⊢
    exact ih hwf

lemma parse_render {entries : List Entry} (hne : entries ≠ [])
    (hwf : WellFormed entries) : parse (utf8 (render entries)) = .ok entries := by
  have hlines : entries.flatMap (fun e => renderLine e ++ ['\n'])
      = (entries.map renderLine).flatMap (· ++ ['\n']) := by
    rw [List.flatMap_map]
  obtain ⟨hlast, hsplit⟩ := splitOn_lines (List.map_eq_nil_iff.not.mpr hne)
    (fun l hl => by
      obtain ⟨e, he, rfl⟩ := List.mem_map.mp hl
      exact newline_notMem_renderLine (hwf.valid e he))
  unfold parse textBody render
  rw [fromUtf8_utf8]
  simp only [String.toList_ofList, hlines, if_pos hlast, ok_iff, Option.some.injEq,
    exists_eq_left', hsplit]
  exact parseLines_render hwf

end Dstack.Sha256sum
