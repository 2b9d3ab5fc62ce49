/-
What a rewrite keeps of a stored value.

A value of the format says itself where it ends, so it is skipped alike
in any buffer. A map is then the same as its list of fields, and the
merge is a statement about such lists: it keeps what the writer wrote and
appends what the writer does not know. Over many writers this makes a
field none of them knows stay, and one that is cleared not come back.
-/
import Dstack.Gateway.Compat
import Dstack.Lib.Along

namespace Dstack.Gateway

open Lib

-- == values

variable {v : Bytes}

lemma readUint_local {r : Bytes} {size n : Nat} (h : readUint (v ++ r) size = some n)
    (hsize : size ≤ v.length) (r' : Bytes) : readUint (v ++ r') size = some n := by
  unfold readUint at h ⊢
  rw [if_pos (by rw [List.length_append]; omega), List.take_append_of_le_length hsize] at h ⊢
  exact h

lemma extent_local {m : Marker} {r : Bytes} {payload children : Nat}
    (h : extent m (v ++ r) = some (payload, children)) (hpayload : payload ≤ v.length)
    (r' : Bytes) : extent m (v ++ r') = some (payload, children) := by
  have hlocal : ∀ (size : Nat) (f : Nat → Nat × Nat), (∀ n, size ≤ (f n).1) →
      (readUint (v ++ r) size).map f = some (payload, children) →
      (readUint (v ++ r') size).map f = some (payload, children) := by
    intro size f hf h
    obtain ⟨n, hn, heq⟩ := Option.map_eq_some_iff.mp h
    have hsize := hf n
    rw [heq] at hsize
    rw [readUint_local hn (Nat.le_trans hsize hpayload) r', Option.map_some, heq]
  cases m
  all_goals
    first
    | exact h
    | exact hlocal _ _ (fun n => by dsimp only; omega) h

variable {rest s : Bytes}

lemma skipPending_cons {fuel pending : Nat} {b : UInt8} :
    skipPending (fuel + 1) (pending + 1) (b :: s) = some rest ↔
      ∃ payload children, extent (.ofByte b) s = some (payload, children)
        ∧ payload ≤ s.length ∧ pending + children ≤ s.length - payload
        ∧ skipPending fuel (pending + children) (s.drop payload) = some rest := by
  simp only [skipPending, Option.bind_eq_bind, Option.bind_eq_some_iff, Prod.exists]
  refine exists_congr fun payload => exists_congr fun children => and_congr_right fun _ => ?_
  split
  · simp only [reduceCtorEq, false_iff]
    omega
  · split
    · simp only [reduceCtorEq, false_iff]
      omega
    · constructor
      · exact fun h => ⟨by omega, by omega, h⟩
      · exact fun h => h.2.2

lemma skipPending_front {fuel pending : Nat} (h : skipPending fuel pending s = some rest) :
    ∃ v, s = v ++ rest ∧ pending ≤ v.length := by
  induction fuel generalizing pending s with
  | zero =>
    cases pending with
    | zero =>
      cases h
      exact ⟨[], rfl, Nat.le_refl 0⟩
    | succ pending => cases h
  | succ fuel ih =>
    cases pending with
    | zero =>
      cases h
      exact ⟨[], rfl, Nat.le_refl 0⟩
    | succ pending =>
      cases s with
      | nil => cases h
      | cons b s =>
        obtain ⟨payload, children, -, hpayload, -, hrest⟩ := skipPending_cons.mp h
        obtain ⟨v, hv, hlen⟩ := ih hrest
        refine ⟨b :: (s.take payload ++ v), ?_, ?_⟩
        · rw [List.cons_append, List.append_assoc, ← hv, List.take_append_drop]
        · rw [List.length_cons, List.length_append, List.length_take]
          omega

lemma skipPending_local {fuel pending : Nat} {r : Bytes}
    (h : skipPending fuel pending (v ++ r) = some r) {fuel' : Nat} (hfuel : v.length ≤ fuel')
    (r' : Bytes) : skipPending fuel' pending (v ++ r') = some r' := by
  induction fuel generalizing pending v fuel' with
  | zero =>
    cases pending with
    | zero =>
      have hv : v ++ r = [] ++ r := Option.some.inj h
      rw [List.append_cancel_right hv]
      cases fuel' <;> rfl
    | succ pending => cases h
  | succ fuel ih =>
    cases pending with
    | zero =>
      have hv : v ++ r = [] ++ r := Option.some.inj h
      rw [List.append_cancel_right hv]
      cases fuel' <;> rfl
    | succ pending =>
      obtain ⟨w, hw, hlen⟩ := skipPending_front h
      rw [← List.append_cancel_right hw] at hlen
      cases v with
      | nil => cases hlen
      | cons b v =>
        cases fuel' with
        | zero => cases hfuel
        | succ fuel' =>
          rw [List.cons_append] at h ⊢
          obtain ⟨payload, children, hextent, hpayload, -, hrest⟩ :=
            skipPending_cons.mp h
          obtain ⟨w, hw, hlen⟩ := skipPending_front hrest
          -- The payload lies in front of what is left.
          have hle : payload ≤ v.length := by
            have hlength := congrArg List.length hw
            simp only [List.length_drop, List.length_append] at hlength hpayload
            omega
          rw [List.drop_append_of_le_length hle] at hrest hw
          rw [← List.append_cancel_right hw] at hlen
          rw [List.length_drop] at hlen
          rw [List.length_cons] at hfuel
          refine skipPending_cons.mpr ⟨payload, children,
            extent_local hextent hle r', ?_, ?_, ?_⟩
          · rw [List.length_append]
            omega
          · rw [List.length_append]
            omega
          · rw [List.drop_append_of_le_length hle]
            exact ih hrest (by rw [List.length_drop]; omega)

def IsValue (v : Bytes) : Prop := skipValue v = some []

lemma IsValue.skip (h : IsValue v) (r : Bytes) : skipValue (v ++ r) = some r := by
  have hv : skipPending v.length 1 (v ++ []) = some [] := by
    rw [List.append_nil]
    exact h
  refine skipPending_local hv ?_ r
  rw [List.length_append]
  omega

lemma skipValue_front (h : skipValue s = some rest) :
    ∃ v, IsValue v ∧ v ≠ [] ∧ s = v ++ rest := by
  obtain ⟨v, rfl, hlen⟩ := skipPending_front h
  refine ⟨v, ?_, ?_, rfl⟩
  · have hv := skipPending_local h (Nat.le_refl _) []
    rw [List.append_nil] at hv
    exact hv
  · rintro rfl
    cases hlen

-- == fields

def Field.WellFormed (f : Field) : Prop :=
  ∃ key value, f.raw = key ++ value ∧ IsValue key ∧ IsValue value ∧ readStr key = some f.name

/-- Fields one after the other, as they are stored. -/
def rawBytes (fields : List Field) : Bytes := (fields.map (·.raw)).flatten

@[simp] lemma rawBytes_cons (f : Field) (fields : List Field) :
    rawBytes (f :: fields) = f.raw ++ rawBytes fields := rfl

@[simp] lemma rawBytes_append (fields fields' : List Field) :
    rawBytes (fields ++ fields') = rawBytes fields ++ rawBytes fields' := by
  unfold rawBytes
  rw [List.map_append, List.flatten_append]

@[simp] lemma upTo_append (v r : Bytes) : upTo (v ++ r) r = v := by
  unfold upTo
  rw [List.length_append, Nat.add_sub_cancel, List.take_left]

variable {fields : List Field} {count : Nat}

lemma splitFields_cons :
    splitFields (count + 1) s = some (fields, rest) ↔
      ∃ afterKey name afterValue tail, skipValue s = some afterKey
        ∧ readStr (upTo s afterKey) = some name ∧ skipValue afterKey = some afterValue
        ∧ splitFields count afterValue = some (tail, rest)
        ∧ fields = ⟨name, upTo s afterValue⟩ :: tail := by
  simp only [splitFields, Option.bind_eq_bind, Option.bind_eq_some_iff, Prod.exists,
    Option.some.injEq, Prod.mk.injEq]
  constructor
  · rintro ⟨afterKey, hkey, name, hname, afterValue, hvalue, tail, rest', htail, rfl, rfl⟩
    exact ⟨afterKey, name, afterValue, tail, hkey, hname, hvalue, htail, rfl⟩
  · rintro ⟨afterKey, name, afterValue, tail, hkey, hname, hvalue, htail, rfl⟩
    exact ⟨afterKey, hkey, name, hname, afterValue, hvalue, tail, rest, htail, rfl, rfl⟩

lemma splitFields_iff :
    splitFields count s = some (fields, rest) ↔ fields.length = count
      ∧ (∀ f ∈ fields, f.WellFormed) ∧ s = rawBytes fields ++ rest := by
  induction count generalizing s fields with
  | zero =>
    simp only [splitFields, Option.some.injEq, Prod.mk.injEq]
    constructor
    · rintro ⟨rfl, rfl⟩
      exact ⟨rfl, fun f hf => (by cases hf), rfl⟩
    · rintro ⟨hlength, -, rfl⟩
      rw [List.length_eq_zero_iff] at hlength
      subst hlength
      exact ⟨rfl, rfl⟩
  | succ count ih =>
    rw [splitFields_cons]
    constructor
    · rintro ⟨afterKey, name, afterValue, tail, hkey, hname, hvalue, htail, rfl⟩
      obtain ⟨key, hiskey, -, rfl⟩ := skipValue_front hkey
      obtain ⟨value, hisvalue, -, rfl⟩ := skipValue_front hvalue
      obtain ⟨hlength, hwf, rfl⟩ := ih.mp htail
      rw [upTo_append] at hname
      rw [← List.append_assoc, upTo_append]
      refine ⟨by rw [List.length_cons, hlength], ?_, ?_⟩
      · intro f hf
        rcases List.mem_cons.mp hf with rfl | hf
        · exact ⟨key, value, rfl, hiskey, hisvalue, hname⟩
        · exact hwf f hf
      · rw [rawBytes_cons, List.append_assoc, List.append_assoc, List.append_assoc]
    · rintro ⟨hlength, hwf, rfl⟩
      cases fields with
      | nil => cases hlength
      | cons f tail =>
        obtain ⟨name, raw⟩ := f
        obtain ⟨key, value, hraw, hkey, hvalue, hname⟩ := hwf _ List.mem_cons_self
        dsimp only at hraw hname
        subst hraw
        have htail := ih.mpr ⟨Nat.succ.inj hlength,
          fun f hf => hwf f (List.mem_cons_of_mem _ hf), rfl⟩
        have hassoc : rawBytes (⟨name, key ++ value⟩ :: tail) ++ rest
            = key ++ (value ++ (rawBytes tail ++ rest)) := by
          rw [rawBytes_cons, List.append_assoc, List.append_assoc]
        refine ⟨value ++ (rawBytes tail ++ rest), name, rawBytes tail ++ rest, tail, ?_, ?_,
          hvalue.skip _, htail, ?_⟩
        · rw [hassoc]
          exact hkey.skip _
        · rw [hassoc, upTo_append]
          exact hname
        · rw [hassoc, ← List.append_assoc, upTo_append]

-- == maps

lemma exists_writeMapHeader (h : count < 2 ^ 32) :
    ∃ header, writeMapHeader count = some header := by
  unfold writeMapHeader
  rw [if_pos h]
  split
  · exact ⟨_, rfl⟩
  · split
    · exact ⟨_, rfl⟩
    · exact ⟨_, rfl⟩

lemma mapHeader_writeMapHeader {header : Bytes}
    (h : writeMapHeader count = some header) (s : Bytes) :
    mapHeader (header ++ s) = some (header.length, count) := by
  unfold writeMapHeader at h
  split at h
  next hcount =>
    cases h
    have hmarker : ∀ n < 16, Marker.ofByte (0x80 ||| .ofNat n) = .fixMap n := by decide
    simp only [mapHeader, List.singleton_append, List.head?_cons, Option.bind_eq_bind,
      Option.bind_some, hmarker count (by omega), List.length_singleton]
  next =>
    split at h
    next hcount =>
      cases h
      show (readUint (beBytes 2 count ++ s) 2).map _ = _
      unfold readUint
      have hlength : (beBytes 2 count).length = 2 := beBytes_length 2 count
      rw [if_pos (by rw [List.length_append]; omega), List.take_left' hlength,
        beNat_beBytes 2 (by omega), Option.map_some, List.length_cons, hlength]
    next =>
      split at h
      next hcount =>
        cases h
        show (readUint (beBytes 4 count ++ s) 4).map _ = _
        unfold readUint
        have hlength : (beBytes 4 count).length = 4 := beBytes_length 4 count
        rw [if_pos (by rw [List.length_append]; omega), List.take_left' hlength,
          beNat_beBytes 4 (by omega), Option.map_some, List.length_cons, hlength]
      next => cases h

lemma splitMap_iff {buf : Bytes} {headerLen : Nat} :
    splitMap buf = some (headerLen, fields) ↔ mapHeader buf = some (headerLen, fields.length)
      ∧ (∀ f ∈ fields, f.WellFormed) ∧ buf.drop headerLen = rawBytes fields := by
  simp only [splitMap, Option.bind_eq_bind, Option.bind_eq_some_iff, Prod.exists]
  constructor
  · rintro ⟨len, count, hheader, fields', rest, hfields, hrest⟩
    split at hrest
    next hnil =>
      cases hrest
      obtain ⟨hlength, hwf, hdrop⟩ := splitFields_iff.mp hfields
      rw [hnil, List.append_nil] at hdrop
      rw [hlength]
      exact ⟨hheader, hwf, hdrop⟩
    next => cases hrest
  · rintro ⟨hheader, hwf, hdrop⟩
    refine ⟨headerLen, fields.length, hheader, fields, [], ?_, if_pos rfl⟩
    exact splitFields_iff.mpr ⟨rfl, hwf, by rw [List.append_nil]; exact hdrop⟩

lemma splitMap_assembled {header : Bytes} (hheader : writeMapHeader fields.length = some header)
    (hwf : ∀ f ∈ fields, f.WellFormed) :
    splitMap (header ++ rawBytes fields) = some (header.length, fields) :=
  splitMap_iff.mpr ⟨mapHeader_writeMapHeader hheader _, hwf, List.drop_left⟩

-- == merge

lemma carriedFields_eq (declared : List String) (stored encoded : List Field) :
    carriedFields declared stored encoded = stored.filter fun f =>
      decide (f.name ∉ declared ∧ f.name ∉ encoded.map (·.name)) := by
  unfold carriedFields
  refine List.filter_congr fun f _ => ?_
  rw [Bool.eq_iff_iff, Bool.and_eq_true, Bool.not_eq_true', Bool.not_eq_true',
    Bool.eq_false_iff, Bool.eq_false_iff, ne_eq, ne_eq, List.contains_iff_mem,
    List.any_eq_true, decide_eq_true_iff, List.mem_map]
  simp only [decide_eq_true_eq]

lemma mem_carriedFields {declared : List String} {stored encoded : List Field} {f : Field} :
    f ∈ carriedFields declared stored encoded ↔
      f ∈ stored ∧ f.name ∉ declared ∧ f.name ∉ encoded.map (·.name) := by
  rw [carriedFields_eq, List.mem_filter, decide_eq_true_iff]

lemma carryUnknownFields_cases {T : Type} (decode : Bytes → Result T)
    (declared : List String) (stored encoded : Bytes) :
    carryUnknownFields decode declared stored encoded = encoded ∨
      ∃ storedLen storedFields encodedLen encodedFields header t,
        splitMap stored = some (storedLen, storedFields)
        ∧ splitMap encoded = some (encodedLen, encodedFields)
        ∧ writeMapHeader
            (encodedFields ++ carriedFields declared storedFields encodedFields).length
          = some header
        ∧ carryUnknownFields decode declared stored encoded
          = header ++ rawBytes
            (encodedFields ++ carriedFields declared storedFields encodedFields)
        ∧ decode (carryUnknownFields decode declared stored encoded) = .ok t := by
  unfold carryUnknownFields
  cases hstored : splitMap stored with
  | none => exact .inl rfl
  | some p =>
    obtain ⟨storedLen, storedFields⟩ := p
    dsimp only
    split
    · exact .inl rfl
    · cases hencoded : splitMap encoded with
      | none => exact .inl rfl
      | some p =>
        obtain ⟨encodedLen, encodedFields⟩ := p
        dsimp only
        split
        · exact .inl rfl
        · rw [← List.length_append]
          cases hheader : writeMapHeader (encodedFields
            ++ carriedFields declared storedFields encodedFields).length with
          | none => exact .inl rfl
          | some header =>
            dsimp only
            have hbytes := (splitMap_iff.mp hencoded).2.2
            have hout : header ++ encoded.drop encodedLen ++ ((carriedFields declared
                storedFields encodedFields).map (·.raw)).flatten
                = header ++ rawBytes (encodedFields
                  ++ carriedFields declared storedFields encodedFields) := by
              rw [hbytes, rawBytes_append, List.append_assoc]
              rfl
            rw [hout]
            split
            next => exact .inl rfl
            next t hread =>
              exact .inr ⟨storedLen, storedFields, encodedLen, encodedFields, header, t,
                rfl, rfl, hheader, rfl, hread⟩

/-- The fields of a stored map, none if it is no map. -/
def fieldsOf (buf : Bytes) : List Field := ((splitMap buf).map Prod.snd).getD []

/-- Their names. -/
def namesOf (buf : Bytes) : List String := (fieldsOf buf).map (·.name)

variable {len : Nat}

lemma fieldsOf_eq {buf : Bytes}
    (h : splitMap buf = some (len, fields)) : fieldsOf buf = fields := by
  unfold fieldsOf
  rw [h]
  rfl

lemma splitMap_wellFormed {buf : Bytes}
    (h : splitMap buf = some (len, fields)) : ∀ f ∈ fields, f.WellFormed :=
  (splitMap_iff.mp h).2.1

variable {stored : Bytes}

lemma carried_wellFormed {declared : List String} {encoded : Bytes} {len' : Nat}
    {storedFields encodedFields : List Field}
    (hstored : splitMap stored = some (len, storedFields))
    (hencoded : splitMap encoded = some (len', encodedFields)) :
    ∀ f ∈ encodedFields ++ carriedFields declared storedFields encodedFields, f.WellFormed := by
  intro f hf
  rcases List.mem_append.mp hf with hf | hf
  · exact splitMap_wellFormed hencoded f hf
  · exact splitMap_wellFormed hstored f (mem_carriedFields.mp hf).1

lemma splitMap_carryUnknownFields {T : Type} {decode : Bytes → Result T}
    {declared : List String} {encoded : Bytes} {len' : Nat}
    {storedFields encodedFields : List Field}
    (hstored : splitMap stored = some (len, storedFields))
    (hencoded : splitMap encoded = some (len', encodedFields))
    (hfits : (encodedFields ++ carriedFields declared storedFields encodedFields).length < 2 ^ 32)
    (hread : ∀ out outLen, splitMap out = some (outLen, encodedFields
      ++ carriedFields declared storedFields encodedFields) → ∃ t, decode out = .ok t) :
    ∃ outLen, splitMap (carryUnknownFields decode declared stored encoded)
      = some (outLen, encodedFields ++ carriedFields declared storedFields encodedFields) := by
  have hnone : carriedFields declared storedFields encodedFields = [] → ∃ outLen,
      splitMap encoded = some (outLen, encodedFields
        ++ carriedFields declared storedFields encodedFields) := by
    intro hempty
    rw [hempty, List.append_nil]
    exact ⟨len', hencoded⟩
  unfold carryUnknownFields
  rw [hstored, hencoded]
  dsimp only
  split
  next hall =>
    refine hnone (List.eq_nil_iff_forall_not_mem.mpr fun f hf => ?_)
    obtain ⟨hf, hunknown, -⟩ := mem_carriedFields.mp hf
    exact hunknown (List.contains_iff_mem.mp (List.all_eq_true.mp hall f hf))
  next =>
    split
    next hempty => exact hnone (List.isEmpty_iff.mp hempty)
    next =>
      rw [← List.length_append]
      obtain ⟨header, hheader⟩ := exists_writeMapHeader hfits
      have hout : header ++ encoded.drop len' ++ ((carriedFields declared storedFields
          encodedFields).map (·.raw)).flatten = header ++ rawBytes (encodedFields
            ++ carriedFields declared storedFields encodedFields) := by
        rw [(splitMap_iff.mp hencoded).2.2, rawBytes_append, List.append_assoc]
        rfl
      have hsplit := splitMap_assembled hheader (carried_wellFormed hstored hencoded)
      obtain ⟨t, ht⟩ := hread _ _ hsplit
      rw [hheader]
      dsimp only
      rw [hout, ht]
      exact ⟨_, hsplit⟩

-- == writers

/-- A record type of some build: the names it declares, and how its values are
written and read back. -/
structure Codec (T : Type) where
  declared : List String
  encode : T → Bytes
  decode : Bytes → Result T
  decode_encode : ∀ t, decode (encode t) = .ok t
  encode_map : ∀ t, ∃ len fields, splitMap (encode t) = some (len, fields)
    ∧ (fields.map (·.name)).Nodup
  decode_map : ∀ b b' len len' fields extra, splitMap b = some (len, fields) →
    splitMap b' = some (len', fields ++ extra) → (∀ f ∈ extra, f.name ∉ declared) →
    ∀ t, decode b' = .ok t → decode b = .ok t

/-- Whether fields that are not declared are no reason to reject a map:
the type is not marked `deny_unknown_fields`. -/
def Codec.Tolerant {T : Type} (C : Codec T) : Prop :=
  ∀ b b' len len' fields extra, splitMap b = some (len, fields) →
    splitMap b' = some (len', fields ++ extra) → ((fields ++ extra).map (·.name)).Nodup →
    (∀ f ∈ extra, f.name ∉ C.declared) → ∀ t, C.decode b = .ok t → C.decode b' = .ok t

variable {T : Type} (C : Codec T)

/-- What a write over a stored record stores. -/
def Codec.carry (stored : Bytes) (t : T) : Bytes :=
  carryUnknownFields C.decode C.declared stored (C.encode t)

lemma Codec.decode_carry (stored : Bytes) (t : T) : C.decode (C.carry stored t) = .ok t := by
  unfold Codec.carry
  rcases carryUnknownFields_cases C.decode C.declared stored (C.encode t) with
    h | ⟨_, _, _, _, header, t', hstored, hencoded, hheader, hout, hread⟩
  · rw [h]
    exact C.decode_encode t
  · have hsplit := splitMap_assembled hheader (carried_wellFormed hstored hencoded)
    rw [← hout] at hsplit
    have hsame := C.decode_map _ _ _ _ _ _ hencoded hsplit
      (fun f hf => (mem_carriedFields.mp hf).2.1) t' hread
    rw [C.decode_encode] at hsame
    cases hsame
    exact hread

lemma Codec.mem_fieldsOf_carry {t : T} {f : Field} (hf : f ∈ fieldsOf (C.carry stored t)) :
    f ∈ fieldsOf (C.encode t) ∨ f ∈ fieldsOf stored ∧ f.name ∉ C.declared := by
  unfold Codec.carry at hf
  rcases carryUnknownFields_cases C.decode C.declared stored (C.encode t) with
    h | ⟨_, _, _, _, header, t', hstored, hencoded, hheader, hout, -⟩
  · rw [h] at hf
    exact .inl hf
  · rw [hout, fieldsOf_eq (splitMap_assembled hheader (carried_wellFormed hstored hencoded))] at hf
    rw [fieldsOf_eq hstored, fieldsOf_eq hencoded]
    rcases List.mem_append.mp hf with hf | hf
    · exact .inl hf
    · obtain ⟨hf, hunknown, -⟩ := mem_carriedFields.mp hf
      exact .inr ⟨hf, hunknown⟩

/-- A write by some build, of a value of its own record type. -/
structure Write where
  type : Type
  codec : Codec type
  value : type

namespace Write

/-- The record as the writer alone would store it. -/
def encoded (w : Write) : Bytes := w.codec.encode w.value

/-- The record after a write. -/
def apply (stored : Bytes) (w : Write) : Bytes := w.codec.carry stored w.value

/-- The writer neither declares nor writes the name. -/
def Unknown (w : Write) (name : String) : Prop :=
  name ∉ w.codec.declared ∧ name ∉ namesOf w.encoded

/-- The fields that are stored can be counted in 32 bits. -/
def Fits (stored : Bytes) (w : Write) : Prop :=
  (fieldsOf w.encoded
    ++ carriedFields w.codec.declared (fieldsOf stored) (fieldsOf w.encoded)).length < 2 ^ 32

lemma apply_keeps {w : Write} {f : Field}
    (h : ∃ len fields, splitMap stored = some (len, fields) ∧ (fields.map (·.name)).Nodup
      ∧ f ∈ fields)
    (hunknown : w.Unknown f.name) (htolerant : w.codec.Tolerant) (hfits : w.Fits stored) :
    ∃ len fields, splitMap (apply stored w) = some (len, fields)
      ∧ (fields.map (·.name)).Nodup ∧ f ∈ fields := by
  obtain ⟨len, fields, hstored, hnodup, hf⟩ := h
  obtain ⟨len', encodedFields, hencoded, hencodedNodup⟩ := w.codec.encode_map w.value
  have hsame : fieldsOf w.encoded = encodedFields := fieldsOf_eq hencoded
  unfold Fits at hfits
  rw [hsame, fieldsOf_eq hstored] at hfits
  -- No name is there twice: those carried are not among those written.
  have houtNodup : ((encodedFields
      ++ carriedFields w.codec.declared fields encodedFields).map (·.name)).Nodup := by
    rw [List.map_append]
    refine List.nodup_append.mpr ⟨hencodedNodup, ?_, ?_⟩
    · exact hnodup.sublist (List.filter_sublist.map _)
    · rintro name hname name' hname' rfl
      obtain ⟨g, hg, rfl⟩ := List.mem_map.mp hname'
      exact (mem_carriedFields.mp hg).2.2 hname
  have hread : ∀ out outLen, splitMap out = some (outLen, encodedFields
      ++ carriedFields w.codec.declared fields encodedFields) → ∃ t, w.codec.decode out = .ok t :=
    fun out outLen hout => ⟨w.value, htolerant _ _ _ _ _ _ hencoded hout houtNodup
      (fun g hg => (mem_carriedFields.mp hg).2.1) w.value (w.codec.decode_encode w.value)⟩
  obtain ⟨outLen, hout⟩ := splitMap_carryUnknownFields hstored hencoded hfits hread
  refine ⟨outLen, _, hout, houtNodup, List.mem_append_right _ ?_⟩
  refine mem_carriedFields.mpr ⟨hf, hunknown.1, ?_⟩
  have hnot := hunknown.2
  unfold namesOf at hnot
  rwa [hsame] at hnot

lemma apply_lacks {w : Write} {name : String}
    (h : name ∉ namesOf stored ∨ name ∈ w.codec.declared) (hnot : name ∉ namesOf w.encoded) :
    name ∉ namesOf (apply stored w) := by
  intro hname
  obtain ⟨f, hf, rfl⟩ := List.mem_map.mp hname
  rcases w.codec.mem_fieldsOf_carry hf with hf | ⟨hf, hunknown⟩
  · exact hnot (List.mem_map_of_mem hf)
  · rcases h with h | h
    · exact h (List.mem_map_of_mem hf)
    · exact hunknown h

lemma foldl_lacks {ws : List Write} {name : String}
    (h : name ∉ namesOf stored) (hnot : ∀ w ∈ ws, name ∉ namesOf w.encoded) :
    name ∉ namesOf (ws.foldl apply stored) := by
  induction ws generalizing stored with
  | nil => exact h
  | cons w ws ih =>
    refine ih ?_ fun w' hw' => hnot w' (List.mem_cons_of_mem w hw')
    exact apply_lacks (.inl h) (hnot w List.mem_cons_self)

end Write

/-- The law of rolling upgrades. A write reads back as the value written,
takes no declared field from the stored record, and is the value's own
encoding or a map of its fields and, behind them, the stored fields that
the writer neither declares nor writes, as they were. A field that no
later writer knows stays, as long as these writers do not reject fields
they do not know and a header can count all fields; and one that a writer
cleared is not there until a writer writes it. -/
theorem rolling_upgrade_merge_law :
    (∀ (T : Type) (C : Codec T) (stored : Bytes) (t : T),
      C.decode (C.carry stored t) = .ok t
      ∧ (∀ f ∈ fieldsOf (C.carry stored t), f.name ∈ C.declared → f ∈ fieldsOf (C.encode t))
      ∧ (C.carry stored t = C.encode t
        ∨ ∃ storedLen storedFields encodedLen encodedFields header,
          splitMap stored = some (storedLen, storedFields)
          ∧ splitMap (C.encode t) = some (encodedLen, encodedFields)
          ∧ let carried := storedFields.filter fun f =>
              decide (f.name ∉ C.declared ∧ f.name ∉ encodedFields.map (·.name))
            writeMapHeader (encodedFields ++ carried).length = some header
            ∧ C.carry stored t = header ++ (rawBytes encodedFields ++ rawBytes carried)
            ∧ splitMap (C.carry stored t) = some (header.length, encodedFields ++ carried)))
    ∧ (∀ (ws : List Write) (stored : Bytes) (len : Nat) (fields : List Field) (f : Field),
        splitMap stored = some (len, fields) → (fields.map (·.name)).Nodup → f ∈ fields →
        Along Write.apply
          (fun stored w => w.Unknown f.name ∧ w.codec.Tolerant ∧ w.Fits stored) stored ws →
        f ∈ fieldsOf (ws.foldl Write.apply stored))
    ∧ ∀ (w : Write) (ws : List Write) (stored : Bytes) (name : String),
        name ∈ w.codec.declared → (∀ w' ∈ w :: ws, name ∉ namesOf w'.encoded) →
        name ∉ namesOf (ws.foldl Write.apply (w.apply stored)) := by
  refine ⟨?_, ?_, ?_⟩
  · intro T C stored t
    refine ⟨C.decode_carry stored t, ?_, ?_⟩
    · intro f hf hdeclared
      rcases C.mem_fieldsOf_carry hf with hf | ⟨-, hunknown⟩
      · exact hf
      · exact absurd hdeclared hunknown
    · rcases carryUnknownFields_cases C.decode C.declared stored (C.encode t) with
        h | ⟨storedLen, storedFields, encodedLen, encodedFields, header, t', hstored, hencoded,
          hheader, hout, -⟩
      · exact .inl h
      · have hsplit := splitMap_assembled hheader (carried_wellFormed hstored hencoded)
        refine .inr ⟨storedLen, storedFields, encodedLen, encodedFields, header, hstored,
          hencoded, ?_⟩
        rw [← carriedFields_eq]
        refine ⟨hheader, ?_, ?_⟩
        · rw [← rawBytes_append]
          exact hout
        · rw [← hout] at hsplit
          exact hsplit
  · intro ws stored len fields f hstored hnodup hf halong
    obtain ⟨len', fields', hout, -, hf'⟩ := halong.foldl
      (P := fun stored => ∃ len fields, splitMap stored = some (len, fields)
        ∧ (fields.map (·.name)).Nodup ∧ f ∈ fields)
      (fun stored w h hok => Write.apply_keeps h hok.1 hok.2.1 hok.2.2)
      ⟨len, fields, hstored, hnodup, hf⟩
    rw [fieldsOf_eq hout]
    exact hf'
  · intro w ws stored name hdeclared hnot
    refine Write.foldl_lacks ?_ fun w' hw' => hnot w' (List.mem_cons_of_mem w hw')
    exact Write.apply_lacks (.inr hdeclared) (hnot w List.mem_cons_self)

-- == a small type

def letterField (letter : Char) (value : UInt8) : Field :=
  ⟨String.ofList [letter], [0xa1, .ofNat letter.toNat, value]⟩

lemma letterField_wellFormed {letter : Char} {value : UInt8} (hletter : letter.toNat < 128)
    (hvalue : IsValue [value]) : (letterField letter value).WellFormed := by
  have hmarker : Marker.ofByte 0xa1 = .fixStr 1 := by decide
  have hkey : IsValue [0xa1, .ofNat letter.toNat] := by
    refine skipPending_cons.mpr ⟨1, 0, ?_, Nat.le_refl 1, Nat.le_refl 0, rfl⟩
    rw [hmarker]
    rfl
  refine ⟨[0xa1, .ofNat letter.toNat], [value], rfl, hkey, hvalue, ?_⟩
  have hutf8 : utf8 (String.ofList [letter]) = [.ofNat letter.toNat] := by
    rw [utf8_ofList, List.flatMap_singleton, utf8EncodeChar_ascii hletter]
  show fromUtf8 [.ofNat letter.toNat] = _
  rw [← hutf8]
  exact fromUtf8_utf8 _

/-- `struct { a: bool }`, with or without `deny_unknown_fields`. -/
def decodeFlag (strict : Bool) (fields : List Field) : Result Bool :=
  if strict && fields.any (·.name ≠ "a") then .error "unknown field"
  else
    match fields.filter (·.name = "a") with
    | [f] =>
      match skipValue f.raw with
      | some [0xc2] => .ok false
      | some [0xc3] => .ok true
      | _ => .error "invalid type, expected a boolean"
    | [] => .error "missing field a"
    | _ => .error "duplicate field a"

def flagFields (t : Bool) : List Field := [letterField 'a' (if t then 0xc3 else 0xc2)]

lemma flagFields_wellFormed (t : Bool) : ∀ f ∈ flagFields t, f.WellFormed := by
  intro f hf
  rw [List.mem_singleton.mp hf]
  refine letterField_wellFormed (by decide) ?_
  cases t <;> rfl

lemma splitMap_letters (hwf : ∀ f ∈ fields, f.WellFormed)
    (hone : fields.length = 1) : splitMap (0x81 :: rawBytes fields) = some (1, fields) := by
  have hheader : writeMapHeader fields.length = some [0x81] := by
    rw [hone]
    decide
  have h := splitMap_assembled hheader hwf
  rw [List.singleton_append] at h
  exact h

lemma decodeFlag_append {strict : Bool} {extra : List Field}
    (hextra : ∀ f ∈ extra, f.name ∉ ["a"]) :
    decodeFlag strict (fields ++ extra) =
      if strict && !extra.isEmpty then .error "unknown field" else decodeFlag strict fields := by
  have hnone : extra.filter (·.name = "a") = [] := by
    refine List.filter_eq_nil_iff.mpr fun f hf => ?_
    rw [decide_eq_true_iff]
    exact fun h => hextra f hf (h ▸ List.mem_singleton.mpr rfl)
  unfold decodeFlag
  rw [List.filter_append, hnone, List.append_nil, List.any_append]
  cases strict with
  | false => rfl
  | true =>
    cases extra with
    | nil => simp
    | cons f extra =>
      have hf : f.name ≠ "a" := fun h =>
        hextra f List.mem_cons_self (h ▸ List.mem_singleton.mpr rfl)
      simp [hf]

def flagCodec (strict : Bool) : Codec Bool where
  declared := ["a"]
  encode t := 0x81 :: rawBytes (flagFields t)
  decode b := (Result.ofOption (splitMap b) "not a map").bind fun p => decodeFlag strict p.2
  decode_encode t := by
    rw [splitMap_letters (flagFields_wellFormed t) rfl]
    cases strict <;> cases t <;> rfl
  encode_map t :=
    ⟨1, flagFields t, splitMap_letters (flagFields_wellFormed t) rfl, List.nodup_singleton _⟩
  decode_map := by
    intro b b' len len' fields extra hb hb' hextra t ht
    rw [hb'] at ht
    rw [hb]
    have ht : decodeFlag strict (fields ++ extra) = .ok t := ht
    rw [decodeFlag_append hextra] at ht
    split at ht
    · cases ht
    · exact ht

lemma flagCodec_decode (strict : Bool) {b : Bytes} (h : splitMap b = some (len, fields)) :
    (flagCodec strict).decode b = decodeFlag strict fields := by
  show (Result.ofOption (splitMap b) "not a map").bind (fun p => decodeFlag strict p.2) = _
  rw [h]
  rfl

lemma flagCodec_tolerant : (flagCodec false).Tolerant := by
  intro b b' len len' fields extra hb hb' _ hextra t ht
  rw [flagCodec_decode false hb] at ht
  rw [flagCodec_decode false hb', decodeFlag_append hextra]
  exact ht

def noteRecord : Bytes := 0x81 :: rawBytes [letterField 'b' 0xc0]

lemma splitMap_noteRecord : splitMap noteRecord = some (1, [letterField 'b' 0xc0]) := by
  refine splitMap_letters ?_ rfl
  intro f hf
  rw [List.mem_singleton.mp hf]
  exact letterField_wellFormed (by decide) rfl

lemma fieldsOf_flag (strict t : Bool) :
    fieldsOf (Write.encoded ⟨Bool, flagCodec strict, t⟩) = flagFields t :=
  fieldsOf_eq (splitMap_letters (flagFields_wellFormed t) rfl)

lemma flag_fits (strict : Bool) : Write.Fits noteRecord ⟨Bool, flagCodec strict, true⟩ := by
  unfold Write.Fits
  rw [fieldsOf_eq splitMap_noteRecord, fieldsOf_flag]
  show (flagFields true
    ++ carriedFields ["a"] [letterField 'b' 0xc0] (flagFields true)).length < 2 ^ 32
  decide

lemma flag_unknown (strict t : Bool) :
    Write.Unknown ⟨Bool, flagCodec strict, t⟩ (letterField 'b' 0xc0).name := by
  refine ⟨by show _ ∉ ["a"]; decide, ?_⟩
  unfold namesOf
  rw [fieldsOf_flag]
  cases t <;> decide

/-- A writer whose type denies unknown fields drops what it does not
know. -/
theorem strict_writer_drops_field :
    ∃ (w : Write) (stored : Bytes) (len : Nat) (fields : List Field) (f : Field),
      splitMap stored = some (len, fields) ∧ (fields.map (·.name)).Nodup ∧ f ∈ fields
      ∧ w.Unknown f.name ∧ w.Fits stored ∧ f ∉ fieldsOf (w.apply stored) := by
  refine ⟨⟨Bool, flagCodec true, true⟩, noteRecord, 1, [letterField 'b' 0xc0],
    letterField 'b' 0xc0, splitMap_noteRecord, List.nodup_singleton _, List.mem_singleton.mpr rfl,
    flag_unknown true true, flag_fits true, ?_⟩
  intro hf
  have happly : Write.apply noteRecord ⟨Bool, flagCodec true, true⟩
      = carryUnknownFields (flagCodec true).decode ["a"] noteRecord
        (Write.encoded ⟨Bool, flagCodec true, true⟩) := rfl
  rw [happly] at hf
  rcases carryUnknownFields_cases (flagCodec true).decode ["a"] noteRecord
      (Write.encoded ⟨Bool, flagCodec true, true⟩) with
    h | ⟨_, storedFields, _, encodedFields, header, t, hstored, hencoded, hheader, hout, hread⟩
  · rw [h, fieldsOf_flag] at hf
    exact absurd hf (by decide)
  · -- The merge would have been read back, with a field that is denied.
    have hsplit := splitMap_assembled hheader (carried_wellFormed hstored hencoded)
    rw [← hout] at hsplit
    have hcarried : encodedFields ++ carriedFields ["a"] storedFields encodedFields
        = flagFields true ++ [letterField 'b' 0xc0] := by
      rw [← fieldsOf_eq hencoded, fieldsOf_flag, ← fieldsOf_eq hstored,
        fieldsOf_eq splitMap_noteRecord]
      decide
    rw [hcarried] at hsplit
    have hdenied : (flagCodec true).decode (carryUnknownFields (flagCodec true).decode ["a"]
        noteRecord (Write.encoded ⟨Bool, flagCodec true, true⟩)) = .error "unknown field" := by
      rw [flagCodec_decode true hsplit]
      rfl
    rw [hdenied] at hread
    cases hread

/-- One that does not deny them keeps it. -/
theorem tolerant_writer_keeps_field :
    letterField 'b' 0xc0 ∈ fieldsOf (Write.apply noteRecord ⟨Bool, flagCodec false, true⟩) := by
  exact rolling_upgrade_merge_law.2.1 [⟨Bool, flagCodec false, true⟩] noteRecord 1 _ _
    splitMap_noteRecord (List.nodup_singleton _) (List.mem_singleton.mpr rfl)
    ⟨⟨flag_unknown false true, flagCodec_tolerant, flag_fits false⟩, trivial⟩

end Dstack.Gateway
