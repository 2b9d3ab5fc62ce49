/-
A tree of files and directories, and the operating system's calls on it.

A path is the list of names from the root. The tree maps every path to
nothing, a directory or a file; what exists lies in a directory that
exists, by construction (`FileTree.parent`). There are no links: a path
names at most one thing and a thing has one path.

`Path.Under` is the subtree order. Calls are `Stateful` computations,
and each has one lemma that says what the tree is after it succeeded.
-/
import Dstack.Lib.Bytes
import Dstack.Lib.Stateful

namespace Dstack.Lib

/-- The name of a file in its directory. -/
abbrev Name := Bytes

/-- The names from the root down. -/
abbrev Path := List Name

/-- What a path leads to. -/
inductive Node where
  | dir
  | file (data : Bytes)
  deriving DecidableEq

/-- `p` is `dir`, or lies in its subtree. -/
abbrev Path.Under (dir p : Path) : Prop := dir <+: p

variable {p : Path}

lemma Path.under_concat {dir : Path} {name : Name} :
    Under dir (p ++ [name]) ↔ dir = p ++ [name] ∨ Under dir p :=
  List.prefix_concat_iff

/-- A finite tree; `keys` lists at least the paths in use. -/
structure FileTree where
  node : Path → Option Node
  keys : List Path
  root : node [] = some .dir
  parent : ∀ p name, node (p ++ [name]) ≠ none → node p = some .dir
  finite : ∀ p, node p ≠ none → p ∈ keys

namespace FileTree

variable (t : FileTree)

lemma node_above {t : FileTree} {q : Path} (hp : t.node p ≠ none)
    (hqp : Path.Under q p) (hne : q ≠ p) : t.node q = some .dir := by
  induction p using List.reverseRecOn with
  | nil => exact absurd (List.prefix_nil.mp hqp) hne
  | append_singleton p name ih =>
    have hdir := t.parent p name hp
    rcases Path.under_concat.mp hqp with h | h
    · exact absurd h hne
    · by_cases he : q = p
      · rw [he]
        exact hdir
      · exact ih (by rw [hdir]; exact Option.some_ne_none _) h he

lemma nothing_below {t : FileTree} {q : Path} (hp : t.node p ≠ some .dir)
    (hpq : Path.Under p q) (hne : p ≠ q) : t.node q = none := by
  by_contra hq
  exact hp (node_above hq hpq hne)

-- == updates

/-- The root and nothing in it. -/
def empty : FileTree where
  node p := if p = [] then some .dir else none
  keys := [[]]
  root := rfl
  parent p name h := by
    rw [if_neg (List.append_ne_nil_of_right_ne_nil p (List.cons_ne_nil name []))] at h
    exact absurd rfl h
  finite p h := by
    by_cases hp : p = []
    · rw [hp]
      exact List.mem_cons_self
    · exact absurd (if_neg hp) h

/-- The tree with something new in a directory. -/
def add (p : Path) (n : Node) (hp : t.node p.dropLast = some .dir) (hne : p ≠ [])
    (hnew : t.node p = none) : FileTree where
  node q := if q = p then some n else t.node q
  keys := p :: t.keys
  root := by
    rw [if_neg hne.symm]
    exact t.root
  parent q name h := by
    by_cases hq : q ++ [name] = p
    · have : q = p.dropLast := by rw [← hq, List.dropLast_concat]
      rw [this, if_neg, hp]
      intro he
      rw [he, hnew] at hp
      cases hp
    · rw [if_neg hq] at h
      have hdir := t.parent q name h
      rw [if_neg, hdir]
      intro he
      rw [he, hnew] at hdir
      cases hdir
  finite q h := by
    by_cases hq : q = p
    · rw [hq]
      exact List.mem_cons_self
    · rw [if_neg hq] at h
      exact List.mem_cons_of_mem _ (t.finite q h)

/-- The tree without a subtree. -/
def prune (p : Path) (hne : p ≠ []) : FileTree where
  node q := if Path.Under p q then none else t.node q
  keys := t.keys
  root := by
    rw [if_neg (mt List.prefix_nil.mp hne)]
    exact t.root
  parent q name h := by
    have hq : ¬ Path.Under p (q ++ [name]) := fun hu => h (if_pos hu)
    rw [if_neg hq] at h
    rw [if_neg fun hu => hq (Path.under_concat.mpr (.inr hu))]
    exact t.parent q name h
  finite q h := by
    by_cases hq : Path.Under p q
    · exact absurd (if_pos hq) h
    · rw [if_neg hq] at h
      exact t.finite q h

/-- The tree with the subtree at `src` put at `dst`. -/
def move (src dst : Path) (hsrc : src ≠ []) (hdst : dst ≠ [])
    (hp : t.node dst.dropLast = some .dir) (hout : ¬ Path.Under src dst) : FileTree where
  node q :=
    if Path.Under dst q then t.node (src ++ q.drop dst.length)
    else if Path.Under src q then none
    else t.node q
  keys := t.keys ++ t.keys.map fun k => dst ++ k.drop src.length
  root := by
    rw [if_neg (mt List.prefix_nil.mp hdst), if_neg (mt List.prefix_nil.mp hsrc)]
    exact t.root
  parent q name h := by
    by_cases hq : Path.Under dst (q ++ [name])
    · rcases Path.under_concat.mp hq with he | hu
      · -- the moved directory itself, in the directory it was put into
        have hd : q = dst.dropLast := by rw [he, List.dropLast_concat]
        have hqdst : Path.Under q dst := by
          rw [he]
          exact List.prefix_append q [name]
        rw [if_neg, if_neg fun hu => hout (hu.trans hqdst), hd, hp]
        intro hu
        have := hu.length_le
        rw [he, List.length_append, List.length_singleton] at this
        omega
      · rw [if_pos hq, List.drop_append_of_le_length hu.length_le, ← List.append_assoc]
          at h
        rw [if_pos hu]
        exact t.parent _ name h
    · rw [if_neg hq] at h
      have hs : ¬ Path.Under src (q ++ [name]) := fun hu => h (if_pos hu)
      rw [if_neg hs] at h
      rw [if_neg fun hu => hq (Path.under_concat.mpr (.inr hu)),
        if_neg fun hu => hs (Path.under_concat.mpr (.inr hu))]
      exact t.parent q name h
  finite q h := by
    by_cases hq : Path.Under dst q
    · rw [if_pos hq] at h
      refine List.mem_append_right _ (List.mem_map.mpr ⟨_, t.finite _ h, ?_⟩)
      rw [List.drop_left]
      exact (List.prefix_append_drop hq).symm
    · rw [if_neg hq] at h
      by_cases hs : Path.Under src q
      · exact absurd (if_pos hs) h
      · rw [if_neg hs] at h
        exact List.mem_append_left _ (t.finite q h)

/-- The names in a directory. -/
def children (p : Path) : List Name :=
  (t.keys.filterMap fun k =>
    match k.getLast? with
    | some name => if k = p ++ [name] ∧ t.node k ≠ none then some name else none
    | none => none).eraseDups

lemma mem_children {t : FileTree} {name : Name} :
    name ∈ t.children p ↔ t.node (p ++ [name]) ≠ none := by
  unfold children
  rw [List.mem_eraseDups, List.mem_filterMap]
  constructor
  · rintro ⟨k, -, hk⟩
    split at hk
    · split at hk
      next last _ hcond =>
        cases hk
        rw [← hcond.1]
        exact hcond.2
      next => cases hk
    · cases hk
  · intro h
    refine ⟨p ++ [name], t.finite _ h, ?_⟩
    rw [List.getLast?_concat]
    exact if_pos ⟨rfl, h⟩

end FileTree

-- == calls

/-- A computation on a tree. -/
abbrev Fs (α : Type) := Stateful FileTree α

namespace Fs

open Stateful

def notFound : String := "No such file or directory (os error 2)"
def busy : String := "Device or resource busy (os error 16)"
def alreadyExists : String := "File exists (os error 17)"
def notADirectory : String := "Not a directory (os error 20)"
def isADirectory : String := "Is a directory (os error 21)"
def invalidArgument : String := "Invalid argument (os error 22)"
def notEmpty : String := "Directory not empty (os error 39)"

def exists? (p : Path) : Fs Bool := inspect fun t => .ok (t.node p).isSome

def isDir (p : Path) : Fs Bool := inspect fun t => .ok (t.node p = some .dir)

/-- Open what is at a path for reading. -/
def openFile (p : Path) : Fs Unit := inspect fun t =>
  if t.node p = none then .error notFound else .ok ()

def readFile (p : Path) : Fs Bytes := inspect fun t =>
  match t.node p with
  | some (.file data) => .ok data
  | some .dir => .error isADirectory
  | none => .error notFound

def readDir (p : Path) : Fs (List Name) := inspect fun t =>
  match t.node p with
  | some .dir => .ok (t.children p)
  | some (.file _) => .error notADirectory
  | none => .error notFound

/-- Make something new at a path. -/
def create (p : Path) (n : Node) : Fs Unit := update fun t =>
  if hnew : t.node p = none then
    if hp : t.node p.dropLast = some .dir then
      .ok (t.add p n hp (fun h => by rw [h, t.root] at hnew; cases hnew) hnew)
    else .error (if t.node p.dropLast = none then notFound else notADirectory)
  else .error alreadyExists

/-- Make a directory unless it is there. -/
def ensureDir (p : Path) : Fs Unit := do
  if ← isDir p then pure () else create p .dir

/-- Make the directories from `p` down along `names`. -/
def createDirs (p : Path) : List Name → Fs Unit
  | [] => ensureDir p
  | name :: names => do
      ensureDir p
      createDirs (p ++ [name]) names

/-- Make a directory and those above it. -/
def createDirAll (p : Path) : Fs Unit := createDirs [] p

def removeFile (p : Path) : Fs Unit := update fun t =>
  match h : t.node p with
  | some (.file _) => .ok (t.prune p fun he => by rw [he, t.root] at h; cases h)
  | some .dir => .error isADirectory
  | none => .error notFound

/-- Remove a directory with what is in it. -/
def removeDirAll (p : Path) : Fs Unit := update fun t =>
  match t.node p with
  | some .dir => if h : p ≠ [] then .ok (t.prune p h) else .error busy
  | some (.file _) => .error notADirectory
  | none => .error notFound

/-- Why something at `dst` cannot give way to what is at `src`. -/
def obstacle (t : FileTree) (src dst : Path) : Option String :=
  match t.node src, t.node dst with
  | some .dir, some .dir => if t.children dst = [] then none else some notEmpty
  | some .dir, some (.file _) => some notADirectory
  | some (.file _), some .dir => some isADirectory
  | _, _ => none

/-- Run with a directory that is removed afterwards. -/
def withTempDir {α : Type} (p : Path) (x : Fs α) : Fs α := fun t =>
  ((x t).1, (removeDirAll p (x t).2).2)

/-- Move a subtree, over what may give way to it. -/
def rename (src dst : Path) : Fs Unit := update fun t =>
  if t.node src = none then .error notFound
  else if src = dst then .ok t
  else if hout : ¬ Path.Under src dst ∧ src ≠ [] then
    if hdst : dst ≠ [] then
      if hp : t.node dst.dropLast = some .dir then
        match obstacle t src dst with
        | none => .ok (t.move src dst hout.2 hdst hp hout.1)
        | some e => .error e
      else .error (if t.node dst.dropLast = none then notFound else notADirectory)
    else .error busy
  else .error invalidArgument

-- == successful calls

variable {t t' : FileTree} {p q : Path} {u : Unit}

lemma runs_exists {b : Bool} :
    Runs (exists? p) t b t' ↔ (t.node p).isSome = b ∧ t = t' := by
  simp [exists?]

lemma runs_isDir {b : Bool} :
    Runs (isDir p) t b t' ↔ decide (t.node p = some .dir) = b ∧ t = t' := by
  simp [isDir]

lemma runs_openFile :
    Runs (openFile p) t u t' ↔ t.node p ≠ none ∧ t = t' := by
  unfold openFile
  rw [runs_inspect]
  split <;> simp_all

lemma runs_readFile {data : Bytes} :
    Runs (readFile p) t data t' ↔ t.node p = some (.file data) ∧ t = t' := by
  unfold readFile
  rw [runs_inspect]
  split <;> simp_all

lemma runs_readDir {names : List Name} :
    Runs (readDir p) t names t'
      ↔ t.node p = some .dir ∧ t.children p = names ∧ t = t' := by
  unfold readDir
  rw [runs_inspect]
  split <;> simp_all

lemma runs_create {n : Node} (h : Runs (create p n) t u t') :
    t.node p = none ∧ t.node p.dropLast = some .dir
      ∧ ∀ q, t'.node q = if q = p then some n else t.node q := by
  unfold create at h
  rw [runs_update] at h
  split at h
  next hnew =>
    split at h
    next hp =>
      cases h
      exact ⟨hnew, hp, fun q => rfl⟩
    next => cases h
  next => cases h

lemma ensureDir_node (h : Runs (ensureDir p) t u t') (q : Path) :
    t'.node q = if q = p then some .dir else t.node q := by
  obtain ⟨b, t₁, hb, h⟩ := runs_bind.mp h
  obtain ⟨rfl, rfl⟩ := runs_isDir.mp hb
  by_cases hdir : t.node p = some .dir
  · rw [decide_eq_true hdir] at h
    obtain ⟨-, rfl⟩ := runs_pure.mp h
    split
    next hq => rw [hq, hdir]
    next => rfl
  · rw [decide_eq_false hdir] at h
    exact (runs_create h).2.2 q

lemma createDirs_node {names : List Name} :
    ∀ {p : Path} {t t' : FileTree} {u : Unit}, Runs (createDirs p names) t u t' →
      ∀ q, t'.node q
        = if Path.Under p q ∧ Path.Under q (p ++ names) then some .dir else t.node q := by
  induction names with
  | nil =>
    intro p t t' u h q
    rw [ensureDir_node h q, List.append_nil]
    by_cases hq : q = p
    · rw [if_pos hq, if_pos]
      rw [hq]
      exact ⟨List.prefix_rfl, List.prefix_rfl⟩
    · rw [if_neg hq, if_neg]
      rintro ⟨h₁, h₂⟩
      exact hq (h₂.eq_of_length_le h₁.length_le)
  | cons name names ih =>
    intro p t t' u h q
    obtain ⟨_, t₁, h₁, h₂⟩ := runs_bind.mp h
    rw [ih h₂ q, ensureDir_node h₁ q, List.append_assoc, List.singleton_append]
    by_cases hq : q = p
    · -- the first directory is above the others, and made here
      rw [if_pos hq, ite_self, if_pos]
      rw [hq]
      exact ⟨List.prefix_rfl, List.prefix_append _ _⟩
    · rw [if_neg hq]
      refine if_congr ⟨fun ⟨ha, hb⟩ => ⟨(List.prefix_append _ _).trans ha, hb⟩, ?_⟩
        rfl rfl
      rintro ⟨ha, hb⟩
      refine ⟨?_, hb⟩
      refine List.prefix_of_prefix_length_le ⟨names, by simp⟩ hb ?_
      have hlt : p.length < q.length :=
        Nat.lt_of_le_of_ne ha.length_le fun he => hq (ha.eq_of_length he).symm
      rw [List.length_append, List.length_singleton]
      exact hlt

lemma createDirAll_node (h : Runs (createDirAll p) t u t') (q : Path) :
    t'.node q = if Path.Under q p then some .dir else t.node q := by
  rw [createDirs_node h q, List.nil_append]
  exact if_congr (and_iff_right List.nil_prefix) rfl rfl

lemma removeFile_node (h : Runs (removeFile p) t u t') (q : Path) :
    t'.node q = if Path.Under p q then none else t.node q := by
  unfold removeFile at h
  rw [runs_update] at h
  split at h
  · cases h
    rfl
  · cases h
  · cases h

lemma removeDirAll_node (h : Runs (removeDirAll p) t u t') (q : Path) :
    t'.node q = if Path.Under p q then none else t.node q := by
  unfold removeDirAll at h
  rw [runs_update] at h
  split at h
  · split at h
    · cases h
      rfl
    · cases h
  · cases h
  · cases h

/-- What was at and below `src` is at and below `dst`. -/
structure Moved (src dst : Path) (t t' : FileTree) : Prop where
  source : t.node src ≠ none
  outside : ¬ Path.Under src dst
  node : ∀ q, t'.node q
    = if Path.Under dst q then t.node (src ++ q.drop dst.length)
      else if Path.Under src q then none
      else t.node q

lemma rename_moved {src dst : Path} (h : Runs (rename src dst) t u t')
    (hne : src ≠ dst) : Moved src dst t t' := by
  unfold rename at h
  rw [runs_update] at h
  split at h
  · cases h
  next hsrc =>
    split at h
    next hout =>
      split at h
      · split at h
        · split at h
          · cases h
            exact ⟨hsrc, hout.1, fun q => rfl⟩
          · cases h
        · cases h
      · cases h
    next => cases h

lemma rename_source {src dst : Path} (h : Runs (rename src dst) t u t') :
    t.node src ≠ none := by
  intro hsrc
  unfold rename at h
  rw [runs_update, if_pos hsrc] at h
  cases h

end Fs

end Dstack.Lib
