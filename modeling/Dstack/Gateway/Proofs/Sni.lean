/-
The server name the gateway routes by, against the one the ClientHello
names.

The walk agrees with the message's own structure up to the first host
name of the first server name extension. A message that has none does not
stop it: both loops run on behind the structure they are in, over the
remaining extensions, the end of the extensions and the end of the record
(`overrun`). So the walk is right exactly when the message has a host name
or the bytes behind are not such that they read like one (`Misread`).
-/
import Dstack.Gateway.Sni
import Dstack.Lib.ClientHello

namespace Dstack.Gateway.Sni

open Lib Lib.Tls

/-- Combinators that read what their names say. -/
def Parcelona.reference : Parcelona where
  takeLenBeU8 := Sniffer.be 1
  takeLenBeU16 := Sniffer.be 2
  takeLenBeU24 := Sniffer.be 3
  takeRecord := Sniffer.take
  takeRecordBeU16 := do Sniffer.take (← Sniffer.be 2)
  takeLenBeU8_eq := rfl
  takeLenBeU16_eq := rfl
  takeLenBeU24_eq := rfl
  takeRecord_eq _ := rfl
  takeRecordBeU16_eq := rfl

-- == the loop bodies

section Bodies

variable (P : Parcelona)

lemma serverName_incremental : Sniffer.Incremental (serverName P) := by
  simp only [serverName, P.takeLenBeU8_eq, P.takeLenBeU16_eq, P.takeRecord_eq]
  exact .bind (.be 1) fun _ => .bind (.be 2) fun n => .bind (.take n) fun _ => .pure _

lemma serverName_consumes : Sniffer.Consumes (serverName P) := by
  simp only [serverName, P.takeLenBeU8_eq, P.takeLenBeU16_eq, P.takeRecord_eq]
  exact .bind (.be (by decide)) fun _ => .bind (.be 2) fun n => .bind (.take n) fun _ => .pure _

lemma skipExtension_incremental (n : Nat) : Sniffer.Incremental (skipExtension P n) := by
  simp only [skipExtension, P.takeRecord_eq]
  exact .ite (.bind (.take n) fun _ => .pure _) (.pure _)

lemma skipExtension_shrinks (n : Nat) : Sniffer.Shrinks (skipExtension P n) := by
  simp only [skipExtension, P.takeRecord_eq]
  exact .ite (.bind (.take n) fun _ => .pure _) (.pure _)

lemma serverNameList_incremental : Sniffer.Incremental (serverNameList P) := by
  simp only [serverNameList, P.takeLenBeU16_eq]
  exact .bind (.be 2) fun _ =>
    .bind (.untilSome (serverName_incremental P)) fun _ => .pure _

lemma serverNameList_shrinks : Sniffer.Shrinks (serverNameList P) := by
  simp only [serverNameList, P.takeLenBeU16_eq]
  exact .bind (.be 2) fun _ =>
    .bind (.untilSome (serverName_consumes P).shrinks) fun _ => .pure _

lemma extension_incremental : Sniffer.Incremental (extension P) := by
  simp only [extension, P.takeLenBeU16_eq]
  exact .bind (.be 2) fun _ => .bind (.be 2) fun n =>
    .ite (skipExtension_incremental P n) (serverNameList_incremental P)

lemma extension_consumes : Sniffer.Consumes (extension P) := by
  simp only [extension, P.takeLenBeU16_eq]
  exact .bind (.be (by decide)) fun _ => .bind (.be 2) fun n =>
    .ite (skipExtension_shrinks P n) (serverNameList_shrinks P)

end Bodies

-- == answers that stay

section Stable

variable (P : Parcelona)

lemma takeRecordU8Len_incremental : Sniffer.Incremental (takeRecordU8Len P) := by
  simp only [takeRecordU8Len, P.takeLenBeU8_eq, P.takeRecord_eq]
  exact .bind (.be 1) fun n => .take n

lemma helloBody_incremental : Sniffer.Incremental (helloBody P) := by
  simp only [helloBody, extensions, P.takeRecord_eq, P.takeRecordBeU16_eq, P.takeLenBeU16_eq]
  exact .bind (.take 34) fun _ => .bind (takeRecordU8Len_incremental P) fun _ =>
    .bind (.bind (.be 2) fun n => .take n) fun _ => .bind (takeRecordU8Len_incremental P) fun _ =>
    .bind (.be 2) fun _ => .untilSome (extension_incremental P)

lemma handshake_incremental : Sniffer.Incremental (handshake P) := by
  simp only [handshake, P.takeLenBeU8_eq, P.takeLenBeU24_eq]
  exact .bind (.be 1) fun _ => .ite .failure (.bind (.be 3) fun _ => helloBody_incremental P)

lemma extractSni_eq_some {b n : Bytes} :
    extractSni P b = some n ↔ 10 ≤ b.length ∧ b.head? = some contentTypeHandshake
      ∧ ∃ rest, handshake P (b.drop 5) = some (n, rest) := by
  simp only [extractSni, extractSniInner]
  by_cases hlen : b.length < 10
  · simp [hlen, show ¬10 ≤ b.length by omega]
  by_cases hhead : b.head? = some contentTypeHandshake
  · have hlen' : 10 ≤ b.length := by omega
    simp only [hlen, if_false, hhead, ne_eq, not_true_eq_false, hlen', true_and]
    cases handshake P (b.drop 5) with
    | none => simp
    | some p => simp [Prod.ext_iff]
  · simp [hlen, hhead]

lemma extractSni_append {p n : Bytes} (h : extractSni P p = some n) (x : Bytes) :
    extractSni P (p ++ x) = some n := by
  obtain ⟨hlen, hhead, rest, hrest⟩ := (extractSni_eq_some P).mp h
  refine (extractSni_eq_some P).mpr ⟨?_, ?_, rest ++ x, ?_⟩
  · simp only [List.length_append]
    omega
  · rw [List.head?_append, hhead, Option.some_or]
  · rw [List.drop_append_of_le_length (by omega)]
    exact handshake_incremental P hrest x

lemma extractSni_nil : extractSni P [] = none := rfl

end Stable

-- == the structure

section Structure

variable (P : Parcelona)

lemma take_vector {n : Nat} {data : Bytes} (h : data.length < 256 ^ n) (rest : Bytes) :
    (do Sniffer.take (← Sniffer.be n)) (vector n data ++ rest) = some (data, rest) := by
  rw [vector, List.append_assoc, Sniffer.bind_apply, Sniffer.be_append h, Option.bind_some,
    Sniffer.take_append rfl]

lemma serverName_encode (s : ServerName) (rest : Bytes) :
    serverName P (s.encode ++ rest)
      = some (if s.isHostName then some s.name else none, rest) := by
  simp only [serverName, P.takeLenBeU8_eq, P.takeLenBeU16_eq, P.takeRecord_eq,
    ServerName.encode, vector, List.append_assoc, Sniffer.bind_apply]
  rw [Sniffer.be_append s.nameType_lt, Option.bind_some, Sniffer.be_append s.name_lt,
    Option.bind_some, Sniffer.take_append rfl, Option.bind_some, Sniffer.pure_apply]
  by_cases hs : s.nameType = 0 <;> simp [ServerName.isHostName, nameTypeHostName, hs]

lemma serverNames_walk (names : List ServerName) (rest : Bytes) :
    (Sniffer.untilSome (serverName P) (names.flatMap ServerName.encode ++ rest)).map Prod.fst
      = ((names.find? ServerName.isHostName).map ServerName.name).or
          ((Sniffer.untilSome (serverName P) rest).map Prod.fst) := by
  induction names with
  | nil => simp
  | cons s names ih =>
    rw [List.flatMap_cons, List.append_assoc, Sniffer.untilSome_eq (serverName_consumes P),
      serverName_encode, Option.bind_some]
    cases hs : s.isHostName with
    | true => simp [hs]
    | false => simpa [hs] using ih

lemma extension_other {type : Nat} {data : Bytes} (type_ne : type ≠ 0)
    (type_lt : type < 256 ^ 2) (fits : data.length < 256 ^ 2) (rest : Bytes) :
    extension P (beBytes 2 type ++ vector 2 data ++ rest) = some (none, rest) := by
  simp only [extension, P.takeLenBeU16_eq, vector, List.append_assoc, Sniffer.bind_apply]
  rw [Sniffer.be_append type_lt, Option.bind_some, Sniffer.be_append fits, Option.bind_some]
  rw [if_pos (show type ≠ extensionTypeSni from type_ne), skipExtension, P.takeRecord_eq]
  split
  · rw [Sniffer.bind_apply, Sniffer.take_append rfl, Option.bind_some, Sniffer.pure_apply]
  next hempty =>
    have hnil : data = [] := List.length_eq_zero_iff.mp (by omega)
    rw [hnil, List.nil_append, Sniffer.pure_apply]

lemma extension_serverNames {names : List ServerName}
    (fits : (vector 2 (names.flatMap ServerName.encode)).length < 256 ^ 2) (rest : Bytes) :
    extension P ((Extension.serverNames names fits).encode ++ rest)
      = (Sniffer.untilSome (serverName P) (names.flatMap ServerName.encode ++ rest)).map
          fun p => (some p.1, p.2) := by
  have hnames : (names.flatMap ServerName.encode).length < 256 ^ 2 := by
    rw [vector, List.length_append, beBytes_length] at fits
    omega
  rw [Extension.encode, vector]
  simp only [extension, P.takeLenBeU16_eq, List.append_assoc, Sniffer.bind_apply]
  rw [Sniffer.be_append (by decide), Option.bind_some, Sniffer.be_append fits, Option.bind_some]
  rw [if_neg (not_not_intro (show 0 = extensionTypeSni from rfl)), serverNameList,
    P.takeLenBeU16_eq, vector, List.append_assoc, Sniffer.bind_apply, Sniffer.be_append hnames,
    Option.bind_some, Sniffer.map_apply]

/-- The extensions behind the first one with server names. -/
def behindServerNames : List Extension → List Extension
  | [] => []
  | .serverNames _ _ :: exts => exts
  | .other _ _ _ _ _ :: exts => behindServerNames exts

/-- What the walk finds behind extensions without a host name. -/
def extensionsOverrun (exts : List Extension) (rest : Bytes) : Option Bytes :=
  match exts.findSome? Extension.serverNames? with
  | none => (Sniffer.untilSome (extension P) rest).map Prod.fst
  | some _ =>
    (Sniffer.untilSome (serverName P)
      ((behindServerNames exts).flatMap Extension.encode ++ rest)).map Prod.fst

/-- What the walk finds behind a hello without a host name. -/
def overrun (h : ClientHello) (rest : Bytes) : Option Bytes :=
  match h.extensions with
  | none => (extensions P rest).map Prod.fst
  | some exts => extensionsOverrun P exts rest

/-- The first host name of the first server name extension. -/
def extensionsHostName (exts : List Extension) : Option Bytes := do
  let names ← exts.findSome? Extension.serverNames?
  (names.find? ServerName.isHostName).map ServerName.name

lemma extensions_walk (exts : List Extension) (rest : Bytes) :
    (Sniffer.untilSome (extension P) (exts.flatMap Extension.encode ++ rest)).map Prod.fst
      = (extensionsHostName exts).or (extensionsOverrun P exts rest) := by
  induction exts with
  | nil => simp [extensionsHostName, extensionsOverrun]
  | cons e exts ih =>
    rw [List.flatMap_cons, List.append_assoc, Sniffer.untilSome_eq (extension_consumes P)]
    cases e with
    | other type data type_ne type_lt fits =>
      have hfind : (Extension.other type data type_ne type_lt fits :: exts).findSome?
          Extension.serverNames? = exts.findSome? Extension.serverNames? := rfl
      rw [Extension.encode, extension_other P type_ne type_lt fits, Option.bind_some,
        extensionsHostName, extensionsOverrun, hfind]
      exact ih
    | serverNames names fits =>
      have hwalk := serverNames_walk P names (exts.flatMap Extension.encode ++ rest)
      rw [extension_serverNames]
      simp only [extensionsHostName, extensionsOverrun, Extension.serverNames?,
        behindServerNames, List.findSome?_cons, Option.bind_eq_bind, Option.bind_some]
      rw [← hwalk]
      cases Sniffer.untilSome (serverName P)
        (names.flatMap ServerName.encode ++ (exts.flatMap Extension.encode ++ rest)) <;> rfl

lemma hostName_eq (h : ClientHello) :
    h.hostName = h.extensions.bind extensionsHostName := by
  cases hexts : h.extensions with
  | none => simp [ClientHello.hostName, hexts]
  | some exts =>
    simp only [ClientHello.hostName, hexts, extensionsHostName, Option.bind_eq_bind,
      Option.bind_some, Option.pure_def]
    cases exts.findSome? Extension.serverNames? with
    | none => rfl
    | some names =>
      simp only [Option.bind_some]
      cases names.find? ServerName.isHostName <;> rfl

lemma extensionsBlock_walk (h : ClientHello) (rest : Bytes) :
    (extensions P (h.extensionsBlock ++ rest)).map Prod.fst
      = h.hostName.or (overrun P h rest) := by
  rw [hostName_eq, ClientHello.extensionsBlock, overrun]
  cases hexts : h.extensions with
  | none => simp
  | some exts =>
    have hlt := h.extensions_lt exts hexts
    simp only [Option.bind_some]
    rw [← extensions_walk P exts rest, extensions, P.takeLenBeU16_eq, Sniffer.bind_apply,
      vector, List.append_assoc, Sniffer.be_append hlt, Option.bind_some]

lemma helloBody_walk (h : ClientHello) (rest : Bytes) :
    helloBody P (h.encode ++ rest) = extensions P (h.extensionsBlock ++ rest) := by
  have hfixed : (h.legacyVersion ++ h.random).length = 34 := by
    rw [List.length_append, h.legacyVersion_length, h.random_length]
  have hshort : ∀ {data : Bytes}, data.length < 256 ^ 1 → ∀ tail,
      takeRecordU8Len P (vector 1 data ++ tail) = some (data, tail) := by
    intro data hdata tail
    rw [takeRecordU8Len, P.takeLenBeU8_eq]
    simp only [P.takeRecord_eq]
    exact take_vector hdata tail
  simp only [helloBody, ClientHello.encode, List.append_assoc, Sniffer.bind_apply,
    P.takeRecordBeU16_eq, P.takeRecord_eq]
  rw [← List.append_assoc, Sniffer.take_append hfixed, Option.bind_some, hshort h.sessionId_lt,
    Option.bind_some, ← Sniffer.bind_apply, take_vector h.cipherSuites_lt, Option.bind_some,
    hshort h.compressionMethods_lt, Option.bind_some]

lemma handshake_walk (h : ClientHello) (hlt : h.message.length < 256 ^ 2) (rest : Bytes) :
    (handshake P (h.message ++ rest)).map Prod.fst = h.hostName.or (overrun P h rest) := by
  have hbody : h.encode.length < 256 ^ 3 := by
    rw [ClientHello.message, vector, List.length_append, List.length_append] at hlt
    omega
  rw [← extensionsBlock_walk, ← helloBody_walk]
  simp only [handshake, ClientHello.message, vector, List.append_assoc, Sniffer.bind_apply,
    P.takeLenBeU8_eq]
  rw [Sniffer.be_append (by decide), Option.bind_some]
  rw [if_neg (not_not_intro (show 1 = handshakeTypeClientHello from rfl)), P.takeLenBeU24_eq,
    Sniffer.bind_apply, Sniffer.be_append hbody, Option.bind_some]

lemma extractSni_encode (r : Record) (rest : Bytes) :
    extractSni P (r.encode ++ rest) = r.hello.hostName.or (overrun P r.hello rest) := by
  have hmessage : r.encode ++ rest
      = (0x16 :: r.version ++ beBytes 2 r.hello.message.length) ++ (r.hello.message ++ rest) := by
    rw [Record.encode, vector]
    simp only [List.append_assoc, List.cons_append]
  have hheader : (0x16 :: r.version ++ beBytes 2 r.hello.message.length).length = 5 := by
    simp only [List.cons_append, List.length_cons, List.length_append, r.version_length,
      beBytes_length]
  have hlong : ¬(r.encode ++ rest).length < 10 := by
    have hfixed : 5 ≤ r.hello.message.length := by
      simp only [ClientHello.message, ClientHello.encode, vector, List.length_append,
        beBytes_length, r.hello.legacyVersion_length]
      omega
    rw [hmessage, List.length_append, hheader, List.length_append]
    omega
  have hhead : (r.encode ++ rest).head? = some contentTypeHandshake := rfl
  rw [← handshake_walk P r.hello r.hello_lt rest, extractSni, extractSniInner, if_neg hlong,
    if_neg (not_not_intro hhead), hmessage, List.drop_left' hheader]
  cases handshake P (r.hello.message ++ rest) <;> rfl

-- == what reads like a name

/-- Entries of a server name list, then one that is a host name, and then
anything. -/
def NamesHost (b : Bytes) : Prop :=
  ∃ (names : List ServerName) (host : ServerName) (tail : Bytes),
    (∀ s ∈ names, s.isHostName = false) ∧ host.isHostName = true
      ∧ b = names.flatMap ServerName.encode ++ (host.encode ++ tail)

/-- Extensions of other types, then the type of the server name extension,
four bytes in the place of its two lengths, whatever they say, and behind
them the entries. -/
def ExtensionNamesHost (b : Bytes) : Prop :=
  ∃ (others : List Extension) (lengths names : Bytes),
    (∀ e ∈ others, e.serverNames? = none) ∧ lengths.length = 4 ∧ NamesHost names
      ∧ b = others.flatMap Extension.encode ++ (beBytes 2 0 ++ (lengths ++ names))

/-- The bytes behind the structure read like a name: behind a hello
without extensions, two bytes and then an extension; behind extensions
without a server name extension, an extension; and behind a server name
extension without a host name, entries, which may start in the hello's own
following extensions. -/
def Misread (h : ClientHello) (rest : Bytes) : Prop :=
  match h.extensions with
  | none => ∃ length tail : Bytes,
      length.length = 2 ∧ rest = length ++ tail ∧ ExtensionNamesHost tail
  | some exts =>
    match exts.findSome? Extension.serverNames? with
    | none => ExtensionNamesHost rest
    | some _ => NamesHost ((behindServerNames exts).flatMap Extension.encode ++ rest)

lemma serverName_eq_some {b rest : Bytes} {a : Option Bytes} :
    serverName P b = some (a, rest) ↔ ∃ s : ServerName,
      (if s.isHostName then some s.name else none) = a ∧ b = s.encode ++ rest := by
  constructor
  · intro h
    simp only [serverName, P.takeLenBeU8_eq, P.takeLenBeU16_eq, P.takeRecord_eq,
      Sniffer.bind_apply, Option.bind_eq_some_iff, Prod.exists, Sniffer.be_eq_some,
      Sniffer.take_eq_some] at h
    obtain ⟨type, _, ⟨htype, rfl⟩, _, _, ⟨hname, rfl⟩, name, _, ⟨rfl, rfl⟩, h⟩ := h
    cases h
    refine ⟨⟨type, name, htype, hname⟩, ?_, by simp [ServerName.encode, vector]⟩
    by_cases htype : type = 0 <;> simp [ServerName.isHostName, nameTypeHostName, htype]
  · rintro ⟨s, rfl, rfl⟩
    exact serverName_encode P s rest

lemma serverNames_isSome (b : Bytes) :
    (Sniffer.untilSome (serverName P) b).isSome = true ↔ NamesHost b := by
  have hskip : ∀ b rest, serverName P b = some (none, rest)
      ↔ ∃ s : ServerName, s.isHostName = false ∧ b = s.encode ++ rest := by
    simp [serverName_eq_some]
  rw [Sniffer.untilSome_isSome_iff (serverName_consumes P) hskip]
  constructor
  · rintro ⟨names, tail, hnames, rfl, a, rest, hanswer⟩
    obtain ⟨host, hname, rfl⟩ := (serverName_eq_some P).mp hanswer
    refine ⟨names, host, rest, hnames, ?_, rfl⟩
    by_contra hhost
    rw [if_neg hhost] at hname
    cases hname
  · rintro ⟨names, host, tail, hnames, hhost, rfl⟩
    exact ⟨names, _, hnames, rfl, host.name, tail,
      (serverName_eq_some P).mpr ⟨host, if_pos hhost, rfl⟩⟩

lemma skipExtension_eq_some {n : Nat} {b rest : Bytes} {a : Option Bytes}
    (h : skipExtension P n b = some (a, rest)) :
    a = none ∧ ∃ data : Bytes, data.length = n ∧ b = data ++ rest := by
  unfold skipExtension at h
  split at h
  · rw [P.takeRecord_eq, Sniffer.bind_apply, Option.bind_eq_some_iff] at h
    obtain ⟨⟨data, _⟩, htake, h⟩ := h
    cases h
    exact ⟨rfl, data, Sniffer.take_eq_some.mp htake⟩
  next hzero =>
    cases h
    exact ⟨rfl, [], by simp only [List.length_nil]; omega, rfl⟩

lemma extension_inv {b rest : Bytes} {a : Option Bytes} (h : extension P b = some (a, rest)) :
    (a = none ∧ ∃ e : Extension, e.serverNames? = none ∧ b = e.encode ++ rest)
      ∨ (a.isSome = true ∧ ∃ lengths names : Bytes, lengths.length = 4 ∧ NamesHost names
        ∧ b = beBytes 2 0 ++ (lengths ++ names)) := by
  simp only [extension, P.takeLenBeU16_eq, Sniffer.bind_apply, Option.bind_eq_some_iff,
    Prod.exists, Sniffer.be_eq_some] at h
  obtain ⟨type, _, ⟨htype, rfl⟩, length, _, ⟨hlength, rfl⟩, h⟩ := h
  split at h
  next hother =>
    obtain ⟨rfl, data, rfl, rfl⟩ := skipExtension_eq_some P h
    exact .inl ⟨rfl, .other type data hother htype hlength, rfl,
      by simp [Extension.encode, vector]⟩
  next hsni =>
    rw [not_not, extensionTypeSni] at hsni
    simp only [serverNameList, P.takeLenBeU16_eq, Sniffer.bind_apply, Sniffer.map_apply,
      Option.bind_eq_some_iff, Option.map_eq_some_iff, Prod.exists, Sniffer.be_eq_some] at h
    obtain ⟨listLength, names, ⟨-, rfl⟩, name, _, hname, heq⟩ := h
    cases heq
    refine .inr ⟨rfl, beBytes 2 length ++ beBytes 2 listLength, names, ?_, ?_, ?_⟩
    · rw [List.length_append, beBytes_length, beBytes_length]
    · exact (serverNames_isSome P names).mp (by rw [hname]; rfl)
    · rw [hsni, List.append_assoc]

lemma extension_names {lengths names : Bytes} (hlengths : lengths.length = 4)
    (hnames : NamesHost names) :
    ∃ a rest, extension P (beBytes 2 0 ++ (lengths ++ names)) = some (some a, rest) := by
  obtain ⟨⟨name, rest⟩, hname⟩ :=
    Option.isSome_iff_exists.mp ((serverNames_isSome P names).mpr hnames)
  have hfirst : (lengths.take 2).length = 2 := by
    rw [List.length_take]
    omega
  have hsecond : (lengths.drop 2).length = 2 := by
    rw [List.length_drop]
    omega
  refine ⟨name, rest, ?_⟩
  rw [← List.take_append_drop 2 lengths]
  simp only [extension, P.takeLenBeU16_eq, Sniffer.bind_apply, List.append_assoc]
  rw [Sniffer.be_append (by decide), Option.bind_some, Sniffer.be_of_length hfirst,
    Option.bind_some, if_neg (not_not_intro (show 0 = extensionTypeSni from rfl)),
    serverNameList, P.takeLenBeU16_eq, Sniffer.bind_apply, Sniffer.be_of_length hsecond,
    Option.bind_some, Sniffer.map_apply, hname, Option.map_some]

lemma extensions_isSome (b : Bytes) :
    (Sniffer.untilSome (extension P) b).isSome = true ↔ ExtensionNamesHost b := by
  have hskip : ∀ b rest, extension P b = some (none, rest)
      ↔ ∃ e : Extension, e.serverNames? = none ∧ b = e.encode ++ rest := by
    intro b rest
    constructor
    · intro h
      rcases extension_inv P h with ⟨-, he⟩ | ⟨hsome, -⟩
      · exact he
      · cases hsome
    · rintro ⟨e, he, rfl⟩
      cases e with
      | serverNames names fits => cases he
      | other type data type_ne type_lt fits => exact extension_other P type_ne type_lt fits rest
  rw [Sniffer.untilSome_isSome_iff (extension_consumes P) hskip]
  constructor
  · rintro ⟨others, tail, hothers, rfl, a, rest, hanswer⟩
    rcases extension_inv P hanswer with ⟨hnone, -⟩ | ⟨-, lengths, names, hlengths, hnames, rfl⟩
    · cases hnone
    · exact ⟨others, lengths, names, hothers, hlengths, hnames, rfl⟩
  · rintro ⟨others, lengths, names, hothers, hlengths, hnames, rfl⟩
    exact ⟨others, _, hothers, rfl, extension_names P hlengths hnames⟩

lemma overrun_isSome (h : ClientHello) (rest : Bytes) :
    (overrun P h rest).isSome = true ↔ Misread h rest := by
  unfold overrun Misread
  cases h.extensions with
  | none =>
    simp only [Option.isSome_map, extensions, P.takeLenBeU16_eq, Sniffer.bind_apply]
    constructor
    · intro hsome
      cases hbe : Sniffer.be 2 rest with
      | none =>
        rw [hbe] at hsome
        cases hsome
      | some p =>
        obtain ⟨-, hrest⟩ := Sniffer.be_eq_some.mp hbe
        rw [hbe] at hsome
        exact ⟨_, p.2, beBytes_length 2 p.1, hrest, (extensions_isSome P p.2).mp hsome⟩
    · rintro ⟨length, tail, hlength, rfl, htail⟩
      rw [Sniffer.be_of_length hlength]
      exact (extensions_isSome P tail).mpr htail
  | some exts =>
    simp only [extensionsOverrun]
    cases exts.findSome? Extension.serverNames? with
    | none => simpa only [Option.isSome_map] using extensions_isSome P rest
    | some names => simpa only [Option.isSome_map] using serverNames_isSome P _

/-- The sniffed name is the hello's own exactly when the hello has one, or
when the bytes behind are not such that they read like one. -/
theorem extractSni_eq_hostName_iff (r : Record) (rest : Bytes) :
    extractSni P (r.encode ++ rest) = r.hello.hostName
      ↔ r.hello.hostName.isSome = true ∨ ¬Misread r.hello rest := by
  rw [extractSni_encode, ← overrun_isSome P]
  cases r.hello.hostName <;> simp

def quietHello : ClientHello where
  legacyVersion := [3, 3]
  random := List.replicate 32 0x41
  sessionId := []
  cipherSuites := [0x13, 0x01]
  compressionMethods := [0]
  extensions := some []
  legacyVersion_length := rfl
  random_length := rfl
  sessionId_lt := by decide
  cipherSuites_lt := by decide
  compressionMethods_lt := by decide
  extensions_lt := by decide

def quietRecord : Record where
  version := [3, 1]
  hello := quietHello
  version_length := rfl
  hello_lt := by decide

/-- Bytes behind the record of a hello without a name are taken for its
name. -/
theorem name_behind_record_is_taken :
    ∃ (P : Parcelona) (r : Record) (rest : Bytes),
      r.hello.hostName = none ∧ extractSni P (r.encode ++ rest) = some (utf8 "other.app") := by
  refine ⟨Parcelona.reference, quietRecord,
    [0, 0, 0, 14, 0, 12, 0, 0, 9] ++ utf8 "other.app", rfl, ?_⟩
  decide +kernel

end Structure

-- == segments

section Segments

variable (P : Parcelona) (isDnsName : String → Bool)

def verdict (b : Bytes) : Result (Option String) :=
  match extractSni P b with
  | some sni => some <$> acceptSni isDnsName sni
  | none =>
    if b.length = maxClientHelloBytes then
      .error ("no sni in the first " ++ toString maxClientHelloBytes
        ++ " bytes of the client hello")
    else .ok none

lemma verdict_of_some {b sni : Bytes} (h : extractSni P b = some sni) :
    verdict P isDnsName b = some <$> acceptSni isDnsName sni := by
  rw [verdict, h]

lemma read_spec {space : Nat} (hspace : 0 < space) {segments : List Bytes}
    (hne : ∀ s ∈ segments, s ≠ []) :
    (read space segments).1 ++ (read space segments).2.flatten = segments.flatten
      ∧ ((read space segments).1 = [] → segments = [])
      ∧ (∀ s ∈ (read space segments).2, s ≠ [])
      ∧ (read space segments).1.length ≤ space := by
  cases segments with
  | nil => simp [read]
  | cons segment later =>
    have hsegment : segment ≠ [] := hne segment (List.mem_cons_self ..)
    have hlater : ∀ s ∈ later, s ≠ [] := fun s hs => hne s (List.mem_cons_of_mem _ hs)
    rw [read]
    split
    next hle => exact ⟨rfl, fun h => absurd h hsegment, hlater, hle⟩
    next hgt =>
      refine ⟨?_, ?_, ?_, ?_⟩
      · rw [List.flatten_cons, ← List.append_assoc, List.take_append_drop, List.flatten_cons]
      · intro h
        rw [List.take_eq_nil_iff] at h
        rcases h with h | h
        · omega
        · exact absurd h hsegment
      · intro s hs
        rcases List.mem_cons.mp hs with rfl | hs
        · intro h
          have := List.length_eq_zero_iff.mpr h
          rw [List.length_drop] at this
          omega
        · exact hlater s hs
      · exact List.length_take_le _ _

lemma growBuffer_spec {dataLen bufferLen : Nat} (hdata : dataLen ≤ bufferLen)
    (hpos : 0 < bufferLen) (hmax : bufferLen ≤ maxClientHelloBytes)
    (hfull : ¬(dataLen = bufferLen ∧ maxClientHelloBytes ≤ bufferLen)) :
    dataLen < growBuffer dataLen bufferLen
      ∧ growBuffer dataLen bufferLen ≤ maxClientHelloBytes := by
  rw [growBuffer]
  split
  · omega
  · omega

/-- From any point of the loop at which no name has been found, it comes to
the verdict on everything read and everything still to come. -/
lemma takeSniLoop_verdict :
    ∀ (reads bufferLen : Nat) (data : Bytes) (segments : List Bytes),
      (∀ s ∈ segments, s ≠ []) → extractSni P data = none → data.length ≤ bufferLen →
      0 < bufferLen → bufferLen ≤ maxClientHelloBytes →
      (data ++ segments.flatten).length ≤ maxClientHelloBytes → segments.flatten.length < reads →
      (takeSniLoop P isDnsName reads bufferLen data segments).map Prod.fst
        = verdict P isDnsName (data ++ segments.flatten)
  | 0, _, _, _, _, _, _, _, _, _, hreads => by omega
  | reads + 1, bufferLen, data, segments, hne, hnone, hdata, hpos, hmax, hfits, hreads => by
      rw [takeSniLoop]
      by_cases hfull : data.length = bufferLen ∧ maxClientHelloBytes ≤ bufferLen
      · have hend : segments.flatten = [] := by
          apply List.length_eq_zero_iff.mp
          rw [List.length_append] at hfits
          omega
        have hlen : data.length = maxClientHelloBytes := by omega
        rw [if_pos hfull, hend, List.append_nil, verdict, hnone]
        simp only [hlen, if_true]
        rfl
      · obtain ⟨hroom, hgrown⟩ := growBuffer_spec hdata hpos hmax hfull
        obtain ⟨hparts, hempty, hne', hshort⟩ :=
          read_spec (Nat.sub_pos_of_lt hroom) hne
        rw [if_neg hfull]
        simp only
        generalize hn : (read (growBuffer data.length bufferLen - data.length) segments).1 = n
        generalize hlater : (read (growBuffer data.length bufferLen - data.length) segments).2
          = later
        rw [hn, hlater] at hparts
        rw [hn] at hempty hshort
        rw [hlater] at hne'
        by_cases hend : n = []
        · have hlen : data.length ≠ maxClientHelloBytes := by omega
          rw [if_pos hend, hempty hend, List.flatten_nil, List.append_nil, verdict, hnone]
          simp only [hlen, if_false]
          rfl
        · have hn0 : 0 < n.length := List.length_pos_iff.mpr hend
          rw [if_neg hend, ← hparts, ← List.append_assoc]
          cases hsni : extractSni P (data ++ n) with
          | some sni =>
            rw [verdict_of_some P isDnsName (extractSni_append P hsni later.flatten)]
            simp only
            cases acceptSni isDnsName sni <;> rfl
          | none =>
            refine takeSniLoop_verdict reads _ _ _ hne' hsni ?_ (by omega) hgrown ?_ ?_
            · rw [List.length_append]
              omega
            · rwa [List.append_assoc, hparts]
            · rw [← hparts, List.length_append] at hreads
              omega

lemma takeSni_verdict {segments : List Bytes} (hne : ∀ s ∈ segments, s ≠ [])
    (hfits : segments.flatten.length ≤ maxClientHelloBytes) :
    (takeSni P isDnsName segments).map Prod.fst = verdict P isDnsName segments.flatten :=
  takeSniLoop_verdict P isDnsName _ _ [] segments hne (extractSni_nil P) (Nat.zero_le _)
    (by decide) (by decide) (by simpa using hfits) (Nat.lt_succ_self _)

/-- How a stream is cut into reads has no part in what is made of it, and a
name once found stays. -/
theorem sni_of_segments :
    (∀ segments segments' : List Bytes, segments.flatten = segments'.flatten →
      (∀ s ∈ segments, s ≠ []) → (∀ s ∈ segments', s ≠ []) →
      segments.flatten.length ≤ maxClientHelloBytes →
      (takeSni P isDnsName segments).map Prod.fst
        = (takeSni P isDnsName segments').map Prod.fst)
    ∧ (∀ p n x : Bytes, extractSni P p = some n → extractSni P (p ++ x) = some n)
    ∧ ∀ p q n m : Bytes, p <+: q → extractSni P p = some n → extractSni P q = some m → n = m := by
  refine ⟨?_, fun p n x h => extractSni_append P h x, ?_⟩
  · intro segments segments' hsame hne hne' hfits
    rw [takeSni_verdict P isDnsName hne hfits,
      takeSni_verdict P isDnsName hne' (hsame ▸ hfits), hsame]
  · rintro p q n m ⟨x, rfl⟩ hp hq
    rw [extractSni_append P hp x, Option.some.injEq] at hq
    exact hq

end Segments

def namedHello : Bytes :=
  [0x16, 3, 1, 0, 56, 1, 0, 0, 52] ++ List.replicate 34 3 ++ [0, 0, 2, 0x13, 0x01, 1, 0, 0, 10]
    ++ [0, 0, 0, 6, 0, 4, 0, 0, 1, 97]

/-- One hello, read in two pieces, whole, and with a byte behind it. -/
theorem hello_in_two_reads :
    (takeSni Parcelona.reference (fun _ => true) [namedHello.take 50, namedHello.drop 50]).map
        Prod.fst
      = (takeSni Parcelona.reference (fun _ => true) [namedHello]).map Prod.fst
    ∧ extractSni Parcelona.reference (namedHello ++ [7]) = some [97] := by
  have hall := sni_of_segments Parcelona.reference fun _ => true
  refine ⟨hall.1 _ _ ?_ ?_ ?_ ?_, hall.2.1 namedHello [97] [7] ?_⟩
  all_goals decide +kernel

end Dstack.Gateway.Sni
