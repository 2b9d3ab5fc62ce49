/-
Paths as text, and the paths they name.

A path is text split at slashes (`std::path::Path`). `components` reads
it the way the language does: empty parts and dots vanish, except a dot
at the very front. `resolve` follows the components from the root, so
that a relative path is taken from there.
-/
import Dstack.Lib.FileTree

namespace Dstack.Lib

/-- A path inside a directory (`Path::join`). -/
def joinPath (dir name : String) : String :=
  if name.toList.head? = some '/' then name
  else if dir = "" ∨ dir.toList.getLast? = some '/' then dir ++ name
  else dir ++ "/" ++ name

/-- A step of a path (`std::path::Component`). -/
inductive Component where
  | rootDir
  | curDir
  | parentDir
  | normal (name : Name)
  deriving DecidableEq

def slash : UInt8 := 0x2f

def dot : UInt8 := 0x2e

/-- The step a part between slashes is, if any. -/
def partComponent (part : Bytes) : Option Component :=
  if part = [] ∨ part = [dot] then none
  else if part = [dot, dot] then some .parentDir
  else some (.normal part)

/-- What a path starts with, apart from its parts. -/
def leadingComponent (p : Bytes) : List Component :=
  if p.head? = some slash then [.rootDir]
  else if (p.splitOn slash).head? = some [dot] then [.curDir]
  else []

/-- The components of a path (`Path::components`). -/
def components (p : Bytes) : List Component :=
  leadingComponent p ++ (p.splitOn slash).filterMap partComponent

/-- The path one step further. -/
def Component.follow (p : Path) : Component → Path
  | .rootDir => []
  | .curDir => p
  | .parentDir => p.dropLast
  | .normal name => p ++ [name]

/-- The path the steps lead to from the root. -/
def walk (cs : List Component) : Path := cs.foldl Component.follow []

/-- The path that text names. -/
def resolve (p : String) : Path := walk (components (utf8 p))

/-- The path of the directory some text's last component is in
(`Path::parent`). -/
def parentPath (p : String) : Option Path :=
  match (components (utf8 p)).getLast? with
  | none => none
  | some .rootDir => none
  | some _ => some (walk (components (utf8 p)).dropLast)

/-- A name that joins a path as one step. -/
structure PlainName (name : Name) : Prop where
  slash : slash ∉ name
  ne_nil : name ≠ []
  ne_dot : name ≠ [dot]
  ne_dots : name ≠ [dot, dot]

instance (name : Name) : Decidable (PlainName name) :=
  decidable_of_iff (slash ∉ name ∧ name ≠ [] ∧ name ≠ [dot] ∧ name ≠ [dot, dot])
    ⟨fun ⟨h₁, h₂, h₃, h₄⟩ => ⟨h₁, h₂, h₃, h₄⟩, fun ⟨h₁, h₂, h₃, h₄⟩ => ⟨h₁, h₂, h₃, h₄⟩⟩

variable {name : Name}

lemma PlainName.part (h : PlainName name) :
    partComponent name = some (.normal name) := by
  unfold partComponent
  rw [if_neg (not_or.mpr ⟨h.ne_nil, h.ne_dot⟩), if_neg h.ne_dots]

lemma PlainName.head (h : PlainName name) : name.head? ≠ some Lib.slash := by
  intro hs
  exact h.slash (List.mem_of_head? hs)

lemma components_slash (dir rest : Bytes) :
    components (dir ++ slash :: rest)
      = (if dir = [] then [.rootDir] else components dir)
        ++ (rest.splitOn slash).filterMap partComponent := by
  have hsplit : (dir ++ slash :: rest).splitOn slash
      = dir.splitOn slash ++ rest.splitOn slash :=
    List.splitOn_append_cons_self dir rest
  unfold components leadingComponent
  rw [hsplit, List.filterMap_append]
  cases dir with
  | nil => rfl
  | cons b dir =>
    have hne := List.splitOn_ne_nil slash (b :: dir)
    rw [if_neg (List.cons_ne_nil _ _), List.cons_append, List.head?_cons,
      List.head?_cons, List.head?_append_of_ne_nil _ hne, List.append_assoc]

lemma PlainName.splitOn (h : PlainName name) :
    (name.splitOn Lib.slash).filterMap partComponent = [.normal name] := by
  rw [List.splitOn_eq_singleton h.slash, List.filterMap_cons, h.part, List.filterMap_nil]

lemma PlainName.components (h : PlainName name) :
    components name = [.normal name] := by
  unfold Lib.components leadingComponent
  rw [h.splitOn, if_neg h.head, if_neg]
  · rfl
  · rw [List.splitOn_eq_singleton h.slash]
    intro hd
    exact h.ne_dot (Option.some.inj hd)

lemma walk_concat (cs : List Component) (c : Component) :
    walk (cs ++ [c]) = c.follow (walk cs) := by
  unfold walk
  rw [List.foldl_append]
  rfl

lemma components_concat_slash (dir : Bytes) :
    components (dir ++ [slash]) = if dir = [] then [.rootDir] else components dir := by
  have hnil : (List.splitOn slash ([] : Bytes)).filterMap partComponent = [] := by
    rw [List.splitOn_nil]
    rfl
  rw [components_slash, hnil, List.append_nil]

lemma utf8_of_getLast? {s : String} (h : s.toList.getLast? = some '/') :
    ∃ b, utf8 s = b ++ [slash] := by
  obtain ⟨l, hl⟩ := List.getLast?_eq_some_iff.mp h
  have hs : s = String.ofList l ++ "/" := by
    apply String.toList_injective
    rw [String.toList_append, String.toList_ofList, hl]
    rfl
  refine ⟨utf8 (String.ofList l), ?_⟩
  rw [hs, utf8_append]
  rfl

lemma PlainName.head_toList {name : String} (h : PlainName (utf8 name)) :
    name.toList.head? ≠ some '/' := by
  intro hs
  obtain ⟨l, hl⟩ := List.head?_eq_some_iff.mp hs
  have hname : name = "/" ++ String.ofList l := by
    apply String.toList_injective
    rw [String.toList_append, hl]
    simp
  apply h.slash
  rw [hname, utf8_append]
  exact List.mem_append_left _ List.mem_cons_self

lemma components_joinPath {dir name : String} (h : PlainName (utf8 name)) :
    components (utf8 (joinPath dir name))
      = components (utf8 dir) ++ [.normal (utf8 name)] := by
  unfold joinPath
  rw [if_neg h.head_toList]
  by_cases hempty : dir = ""
  · rw [if_pos (.inl hempty), hempty, utf8_append]
    exact h.components
  · by_cases hlast : dir.toList.getLast? = some '/'
    · obtain ⟨b, hb⟩ := utf8_of_getLast? hlast
      rw [if_pos (.inr hlast), utf8_append, hb, List.append_assoc, List.singleton_append,
        components_slash, components_concat_slash, h.splitOn]
    · have hne : utf8 dir ≠ [] := fun he => hempty (utf8_injective he)
      rw [if_neg (not_or.mpr ⟨hempty, hlast⟩), utf8_append, utf8_append, List.append_assoc]
      show components (utf8 dir ++ slash :: utf8 name) = _
      rw [components_slash, if_neg hne, h.splitOn]

lemma resolve_joinPath {dir name : String} (h : PlainName (utf8 name)) :
    resolve (joinPath dir name) = resolve dir ++ [utf8 name] := by
  unfold resolve
  rw [components_joinPath h, walk_concat]
  rfl

/-- The last component is a name. -/
def endsInName (p : String) : Bool :=
  match (components (utf8 p)).getLast? with
  | some (.normal _) => true
  | _ => false

lemma resolve_of_parentPath {p : String} {dir : Path} (hname : endsInName p = true)
    (h : parentPath p = some dir) : ∃ name, resolve p = dir ++ [name] := by
  unfold endsInName at hname
  unfold parentPath at h
  split at hname
  next name hlast =>
    obtain ⟨cs, hcs⟩ := List.getLast?_eq_some_iff.mp hlast
    rw [hlast, hcs, List.dropLast_concat] at h
    refine ⟨name, ?_⟩
    unfold resolve
    rw [hcs, walk_concat, ← Option.some.inj h]
    rfl
  next => cases hname

/-- Move a thing; neither path may end in a dot (`rename(2)`). -/
def Fs.renamePath (src dst : String) : Fs Unit :=
  if endsInName src ∧ endsInName dst then rename (resolve src) (resolve dst)
  else .lift (.error busy)

end Dstack.Lib
