/-
  A static file-system tree, looked at the way a program looks at one: by PATH.

  1. **Trees** — a `Node` is a file, a directory, a symbolic link or something else; a directory's
     `Entries` name its children.  `at? path` walks real directories only, `beneath` lists every entry
     under a directory, its own entries first and then those under each subdirectory.  When no
     directory names an entry twice (`distinct`) the two agree: `mem_beneath_iff`.

  2. **File systems** — a `FileSystem` is a root directory together with what `stat` reaches through
     the symbolic link at each path (`follow`; `none` for a dangling link or a loop).  `lstat` follows
     the links on the way to a path but not one at its end, `stat` follows that too, and `rglob` lists
     what is below the directory `stat` reaches.

  3. **The enumeration is exact** — `lstat_of_mem_rglob`: what `rglob` lists is there, with the node
     `lstat` sees.  `mem_rglob_of_lstat`: if nothing it lists is a link, it has listed every path below
     that exists at all.

  Mathlib-free.
-/

set_option linter.unusedVariables false

namespace FlightSql.Lib

/-- The names on the way to an entry. -/
abbrev Path := List String

/-! ## Trees -/

mutual

/-- **An entry of a file system.**  A file carries its content; `readable` is whether opening it is
    permitted. -/
inductive Node (α : Type) where
  | file (readable : Bool) (content : α)
  | dir (entries : Entries α)
  | symlink
  | other

/-- The entries of a directory. -/
inductive Entries (α : Type) where
  | nil
  | cons (name : String) (node : Node α) (rest : Entries α)

end

variable {α : Type}

namespace Entries

def find? : Entries α → String → Option (Node α)
  | nil, _ => none
  | cons name node rest, wanted => if name = wanted then some node else rest.find? wanted

def direct : Entries α → List (String × Node α)
  | nil => []
  | cons name node rest => (name, node) :: rest.direct

def ofList : List (String × Node α) → Entries α
  | [] => nil
  | e :: es => cons e.1 e.2 (ofList es)

end Entries

mutual

/-- Every entry under a node, with its path from the node. -/
def Node.beneath : Node α → List (Path × Node α)
  | .dir entries => entries.direct.map (fun e => ([e.1], e.2)) ++ entries.deeper
  | _ => []

/-- The entries under the subdirectories. -/
def Entries.deeper : Entries α → List (Path × Node α)
  | .nil => []
  | .cons name node rest => node.beneath.map (fun e => (name :: e.1, e.2)) ++ rest.deeper

end

mutual

/-- No directory names an entry twice. -/
def Node.distinct : Node α → Bool
  | .dir entries => entries.distinct
  | _ => true

def Entries.distinct : Entries α → Bool
  | .nil => true
  | .cons name node rest => (rest.find? name).isNone && node.distinct && rest.distinct

end

namespace Node

def isSymlink : Node α → Bool
  | symlink => true
  | _ => false

def isFile : Node α → Bool
  | file _ _ => true
  | _ => false

def isDir : Node α → Bool
  | dir _ => true
  | _ => false

/-- The node at a path, walking real directories only. -/
def at? (node : Node α) : Path → Option (Node α)
  | [] => some node
  | name :: rest =>
    match node with
    | dir entries => (entries.find? name).bind fun child => child.at? rest
    | _ => none

@[simp] theorem at?_nil (node : Node α) : node.at? [] = some node := rfl

@[simp] theorem at?_dir_cons (entries : Entries α) (name : String) (rest : Path) :
    (dir entries).at? (name :: rest) = (entries.find? name).bind fun child => child.at? rest := rfl

theorem beneath_dir (entries : Entries α) : (dir entries).beneath =
    entries.direct.map (fun e => ([e.1], e.2)) ++ entries.deeper := rfl

end Node

namespace Entries

theorem find?_cons (name : String) (node : Node α) (rest : Entries α) (wanted : String) :
    (cons name node rest).find? wanted = if name = wanted then some node else rest.find? wanted := rfl

theorem direct_cons (name : String) (node : Node α) (rest : Entries α) :
    (cons name node rest).direct = (name, node) :: rest.direct := rfl

theorem deeper_cons (name : String) (node : Node α) (rest : Entries α) : (cons name node rest).deeper =
    node.beneath.map (fun e => (name :: e.1, e.2)) ++ rest.deeper := rfl

theorem distinct_cons (name : String) (node : Node α) (rest : Entries α) : (cons name node rest).distinct =
    ((rest.find? name).isNone && node.distinct && rest.distinct) := rfl

end Entries

theorem Entries.mem_direct_of_find? {entries : Entries α} {name : String} {node : Node α}
    (h : entries.find? name = some node) : (name, node) ∈ entries.direct := by
  induction entries using Entries.direct.induct with
  | case1 => cases h
  | case2 name' node' rest ih =>
    rw [Entries.find?_cons] at h
    rw [Entries.direct_cons, List.mem_cons]
    by_cases hn : name' = name
    · rw [if_pos hn] at h
      have hnode : node' = node := Option.some.inj h
      exact Or.inl (by rw [hn, hnode])
    · rw [if_neg hn] at h
      exact Or.inr (ih h)

/-- Where names are distinct, an entry is THE entry of its name, and distinctness goes down. -/
theorem Entries.find?_of_mem_direct {entries : Entries α} {name : String} {node : Node α}
    (hd : entries.distinct = true) (h : (name, node) ∈ entries.direct) :
    entries.find? name = some node ∧ node.distinct = true := by
  induction entries using Entries.direct.induct with
  | case1 => cases h
  | case2 name' node' rest ih =>
    rw [Entries.distinct_cons, Bool.and_eq_true, Bool.and_eq_true] at hd
    obtain ⟨⟨hfresh, hnode⟩, hrest⟩ := hd
    rw [Entries.direct_cons, List.mem_cons] at h
    rw [Entries.find?_cons]
    rcases h with h | h
    · obtain ⟨rfl, rfl⟩ := Prod.mk.inj h
      rw [if_pos rfl]
      exact ⟨rfl, hnode⟩
    · obtain ⟨hfind, hdist⟩ := ih hrest h
      have hne : name' ≠ name := by
        intro he
        rw [he, hfind] at hfresh
        cases hfresh
      rw [if_neg hne]
      exact ⟨hfind, hdist⟩

theorem Entries.mem_deeper_iff {entries : Entries α} {path : Path} {node : Node α} :
    (path, node) ∈ entries.deeper ↔
      ∃ name child rest, (name, child) ∈ entries.direct ∧ path = name :: rest ∧
        (rest, node) ∈ child.beneath := by
  induction entries using Entries.direct.induct with
  | case1 => simp [Entries.deeper, Entries.direct]
  | case2 name' node' tail ih =>
    rw [Entries.deeper_cons, List.mem_append, ih, List.mem_map, Entries.direct_cons]
    constructor
    · rintro (⟨⟨rest, n⟩, hmem, heq⟩ | ⟨name, child, rest, hdir, hpath, hmem⟩)
      · obtain ⟨rfl, rfl⟩ := Prod.mk.inj heq
        exact ⟨name', node', rest, List.mem_cons_self, rfl, hmem⟩
      · exact ⟨name, child, rest, List.mem_cons_of_mem _ hdir, hpath, hmem⟩
    · rintro ⟨name, child, rest, hdir, hpath, hmem⟩
      rcases List.mem_cons.mp hdir with heq | hdir
      · obtain ⟨rfl, rfl⟩ := Prod.mk.inj heq
        exact Or.inl ⟨(rest, node), hmem, by rw [hpath]⟩
      · exact Or.inr ⟨name, child, rest, hdir, hpath, hmem⟩

/-- **What is below a node is what a nonempty path of real directories reaches.** -/
theorem Node.mem_beneath_iff {top node : Node α} {path : Path} (hd : top.distinct = true) :
    (path, node) ∈ top.beneath ↔ path ≠ [] ∧ top.at? path = some node := by
  -- along the path, for every node it can start from
  induction path generalizing top with
  | nil =>
    cases top with
    | dir entries =>
      rw [Node.beneath_dir, List.mem_append, Entries.mem_deeper_iff, List.mem_map]
      simp
    | file _ _ => simp [Node.beneath]
    | symlink => simp [Node.beneath]
    | other => simp [Node.beneath]
  | cons name rest ih =>
    cases top with
    | dir entries =>
      have hd' : entries.distinct = true := hd
      rw [Node.beneath_dir, List.mem_append, Entries.mem_deeper_iff, List.mem_map, Node.at?_dir_cons,
        Option.bind_eq_some_iff]
      constructor
      · rintro (⟨⟨name', child⟩, hdir, heq⟩ | ⟨name', child, rest', hdir, hpath, hmem⟩)
        · obtain ⟨hname, rfl⟩ := Prod.mk.inj heq
          obtain ⟨rfl, rfl⟩ := List.cons.inj hname
          exact ⟨List.cons_ne_nil _ _, child, (Entries.find?_of_mem_direct hd' hdir).1,
            Node.at?_nil child⟩
        · obtain ⟨rfl, rfl⟩ := List.cons.inj hpath
          obtain ⟨hfind, hchild⟩ := Entries.find?_of_mem_direct hd' hdir
          exact ⟨List.cons_ne_nil _ _, child, hfind, ((ih hchild).mp hmem).2⟩
      · rintro ⟨-, child, hfind, hat⟩
        have hdir : (name, child) ∈ entries.direct := Entries.mem_direct_of_find? hfind
        by_cases hrest : rest = []
        · subst hrest
          have hchild : child = node := by
            rw [Node.at?_nil] at hat
            exact Option.some.inj hat
          exact Or.inl ⟨(name, child), hdir, by rw [hchild]⟩
        · have hmem : (rest, node) ∈ child.beneath :=
            (ih (Entries.find?_of_mem_direct hd' hdir).2).mpr ⟨hrest, hat⟩
          exact Or.inr ⟨name, child, rest, hdir, rfl, hmem⟩
    | file _ _ => simp [Node.beneath, Node.at?]
    | symlink => simp [Node.beneath, Node.at?]
    | other => simp [Node.beneath, Node.at?]

/-! ## File systems -/

/-- **A static file system** seen from one directory: where that directory is, what is in it, and
    what the links in it reach. -/
structure FileSystem (α : Type) where
  location : String
  root : Entries α
  follow : Path → Option (Node α)
  distinct : root.distinct = true
  follow_distinct : ∀ path node, follow path = some node → node.distinct = true

namespace FileSystem

variable (fs : FileSystem α)

/-- The node itself, or what the link at `here` reaches. -/
def enter (here : Path) : Node α → Option (Node α)
  | .symlink => fs.follow here
  | node => some node

/-- The node a path reaches from `node`, which is at `here`: links on the way are followed. -/
def walk (here : Path) (node : Node α) : Path → Option (Node α)
  | [] => some node
  | name :: rest =>
    match fs.enter here node with
    | some (.dir entries) =>
      (entries.find? name).bind fun child => walk (here ++ [name]) child rest
    | _ => none

/-- `os.lstat`. -/
def lstat (path : Path) : Option (Node α) := fs.walk [] (.dir fs.root) path

/-- `os.stat`. -/
def stat (path : Path) : Option (Node α) := (fs.lstat path).bind (fs.enter path)

/-- `path.is_symlink()`. -/
def isSymlink (path : Path) : Bool := (fs.lstat path).any Node.isSymlink

/-- `path.is_file()`. -/
def isFile (path : Path) : Bool := (fs.stat path).any Node.isFile

/-- `path.is_dir()`. -/
def isDir (path : Path) : Bool := (fs.stat path).any Node.isDir

/-- `path.rglob("*")`: links below the directory are listed, not entered. -/
def rglob (path : Path) : List Path :=
  match fs.stat path with
  | some node => node.beneath.map fun e => path ++ e.1
  | none => []

variable {fs}

@[simp] theorem walk_nil (here : Path) (node : Node α) : fs.walk here node [] = some node := by
  rw [walk]

theorem walk_cons (here : Path) (node : Node α) (name : String) (rest : Path) :
    fs.walk here node (name :: rest) =
      match fs.enter here node with
      | some (.dir entries) =>
        (entries.find? name).bind fun child => fs.walk (here ++ [name]) child rest
      | _ => none := by
  rw [walk]

/-- A first step is taken from what the node at `here` is, or links to. -/
theorem walk_cons_eq_some_iff {here : Path} {node node' : Node α} {name : String} {rest : Path} :
    fs.walk here node (name :: rest) = some node' ↔
      ∃ entries child, fs.enter here node = some (.dir entries) ∧
        entries.find? name = some child ∧ fs.walk (here ++ [name]) child rest = some node' := by
  rw [walk_cons]
  constructor
  · intro h
    split at h
    · next entries henter =>
      obtain ⟨child, hfind, hwalk⟩ := Option.bind_eq_some_iff.mp h
      exact ⟨entries, child, henter, hfind, hwalk⟩
    · cases h
  · rintro ⟨entries, child, henter, hfind, hwalk⟩
    rw [henter]
    exact Option.bind_eq_some_iff.mpr ⟨child, hfind, hwalk⟩

theorem walk_append {here : Path} {node : Node α} {path path' : Path} :
    fs.walk here node (path ++ path') =
      (fs.walk here node path).bind fun m => fs.walk (here ++ path) m path' := by
  induction path generalizing here node with
  | nil => simp
  | cons name rest ih =>
    apply Option.ext
    intro node'
    rw [List.cons_append, walk_cons_eq_some_iff, Option.bind_eq_some_iff]
    constructor
    · rintro ⟨entries, child, henter, hfind, hwalk⟩
      rw [ih, Option.bind_eq_some_iff] at hwalk
      obtain ⟨m, hm, hm'⟩ := hwalk
      rw [List.append_assoc] at hm'
      exact ⟨m, walk_cons_eq_some_iff.mpr ⟨entries, child, henter, hfind, hm⟩, hm'⟩
    · rintro ⟨m, hm, hm'⟩
      obtain ⟨entries, child, henter, hfind, hwalk⟩ := walk_cons_eq_some_iff.mp hm
      refine ⟨entries, child, henter, hfind, ?_⟩
      rw [ih, Option.bind_eq_some_iff]
      exact ⟨m, hwalk, by rw [List.append_assoc]; exact hm'⟩

theorem enter_distinct {here : Path} {node node' : Node α} (hd : node.distinct = true)
    (h : fs.enter here node = some node') : node'.distinct = true := by
  cases node with
  | symlink => exact fs.follow_distinct here node' h
  | file _ _ => cases h; exact hd
  | dir _ => cases h; exact hd
  | other => cases h; exact hd

theorem enter_of_not_symlink {here : Path} {node : Node α} (h : node.isSymlink = false) :
    fs.enter here node = some node := by
  cases node with
  | symlink => cases h
  | file _ _ => rfl
  | dir _ => rfl
  | other => rfl

theorem walk_distinct {here : Path} {node node' : Node α} {path : Path}
    (hd : node.distinct = true) (h : fs.walk here node path = some node') :
    node'.distinct = true := by
  induction path generalizing here node with
  | nil =>
    rw [walk_nil] at h
    rw [← Option.some.inj h]
    exact hd
  | cons name rest ih =>
    obtain ⟨entries, child, henter, hfind, hwalk⟩ := walk_cons_eq_some_iff.mp h
    have hd' : entries.distinct = true := by
      have := enter_distinct hd henter
      rw [Node.distinct] at this
      exact this
    exact ih (Entries.find?_of_mem_direct hd' (Entries.mem_direct_of_find? hfind)).2 hwalk

theorem stat_distinct {path : Path} {node : Node α} (h : fs.stat path = some node) :
    node.distinct = true := by
  obtain ⟨m, hm, henter⟩ := Option.bind_eq_some_iff.mp h
  have hroot : (Node.dir fs.root).distinct = true := by rw [Node.distinct]; exact fs.distinct
  exact enter_distinct (walk_distinct hroot hm) henter

theorem stat_of_not_symlink {path : Path} {node : Node α} (h : fs.lstat path = some node)
    (hl : node.isSymlink = false) : fs.stat path = some node := by
  rw [stat, h, Option.bind_some, enter_of_not_symlink hl]

/-- Real directories are walked the same way whatever the links reach. -/
theorem walk_of_at? {here : Path} {node node' : Node α} {path : Path}
    (h : node.at? path = some node') : fs.walk here node path = some node' := by
  induction path generalizing here node with
  | nil => rw [walk_nil, ← h, Node.at?_nil]
  | cons name rest ih =>
    cases node with
    | dir entries =>
      rw [Node.at?_dir_cons, Option.bind_eq_some_iff] at h
      obtain ⟨child, hfind, hat⟩ := h
      exact walk_cons_eq_some_iff.mpr ⟨entries, child, rfl, hfind, ih hat⟩
    | file _ _ => cases h
    | symlink => cases h
    | other => cases h

/-! ## The enumeration is exact -/

theorem mem_rglob_iff {path path' : Path} :
    path' ∈ fs.rglob path ↔ ∃ top rest node, fs.stat path = some top ∧ path' = path ++ rest ∧
      rest ≠ [] ∧ top.at? rest = some node := by
  rw [rglob]
  constructor
  · intro h
    split at h
    · next top htop =>
      obtain ⟨⟨rest, node⟩, hmem, heq⟩ := List.mem_map.mp h
      obtain ⟨hne, hat⟩ := (Node.mem_beneath_iff (stat_distinct htop)).mp hmem
      exact ⟨top, rest, node, htop, heq.symm, hne, hat⟩
    · cases h
  · rintro ⟨top, rest, node, htop, heq, hne, hat⟩
    have hmem : (rest, node) ∈ top.beneath :=
      (Node.mem_beneath_iff (stat_distinct htop)).mpr ⟨hne, hat⟩
    rw [htop]
    exact List.mem_map.mpr ⟨(rest, node), hmem, heq.symm⟩

/-- Below a path one starts from what `stat` reaches there. -/
theorem lstat_append {path rest : Path} (hne : rest ≠ []) {node : Node α} :
    fs.lstat (path ++ rest) = some node ↔
      ∃ top, fs.stat path = some top ∧ top.isDir = true ∧ fs.walk path top rest = some node := by
  cases rest with
  | nil => exact absurd rfl hne
  | cons name rest =>
    rw [lstat, walk_append, Option.bind_eq_some_iff, List.nil_append]
    constructor
    · rintro ⟨m, hm, hwalk⟩
      obtain ⟨entries, child, henter, hfind, hwalk⟩ := walk_cons_eq_some_iff.mp hwalk
      refine ⟨.dir entries, Option.bind_eq_some_iff.mpr ⟨m, hm, henter⟩, rfl, ?_⟩
      exact walk_cons_eq_some_iff.mpr ⟨entries, child, rfl, hfind, hwalk⟩
    · rintro ⟨top, htop, hdir, hwalk⟩
      obtain ⟨m, hm, henter⟩ := Option.bind_eq_some_iff.mp htop
      obtain ⟨entries, child, henter', hfind, hwalk⟩ := walk_cons_eq_some_iff.mp hwalk
      have htop' : top = .dir entries := by
        cases top with
        | dir _ => exact Option.some.inj henter'
        | file _ _ => cases hdir
        | symlink => cases hdir
        | other => cases hdir
      refine ⟨m, hm, walk_cons_eq_some_iff.mpr ⟨entries, child, ?_, hfind, hwalk⟩⟩
      rw [henter, htop']

/-- **What `rglob` lists is there.** -/
theorem lstat_of_mem_rglob {path path' : Path} (h : path' ∈ fs.rglob path) :
    ∃ node, fs.lstat path' = some node := by
  obtain ⟨top, rest, node, htop, rfl, hne, hat⟩ := mem_rglob_iff.mp h
  have hdir : top.isDir = true := by
    cases rest with
    | nil => exact absurd rfl hne
    | cons name rest =>
      cases top with
      | dir _ => rfl
      | file _ _ => cases hat
      | symlink => cases hat
      | other => cases hat
  exact ⟨node, (lstat_append hne).mpr ⟨top, htop, hdir, walk_of_at? hat⟩⟩

/-- Where no path below a node is a link, walking from it never follows one. -/
theorem at?_of_walk {here : Path} {top node : Node α} {path : Path}
    (hl : ∀ p m, top.at? p = some m → m.isSymlink = false)
    (h : fs.walk here top path = some node) : top.at? path = some node := by
  induction path generalizing here top with
  | nil => rw [Node.at?_nil, ← h, walk_nil]
  | cons name rest ih =>
    obtain ⟨entries, child, henter, hfind, hwalk⟩ := walk_cons_eq_some_iff.mp h
    have htop : top = .dir entries := by
      rw [enter_of_not_symlink (hl [] top (Node.at?_nil top))] at henter
      exact Option.some.inj henter
    subst htop
    have hchild : ∀ p m, child.at? p = some m → m.isSymlink = false := by
      intro p m hm
      apply hl (name :: p) m
      rw [Node.at?_dir_cons, hfind]
      exact hm
    rw [Node.at?_dir_cons, hfind, Option.bind_some]
    exact ih hchild hwalk

/-- **If nothing `rglob` lists is a link, it lists every path that exists below.** -/
theorem mem_rglob_of_lstat {path rest : Path} {node : Node α} (hne : rest ≠ [])
    (hl : ∀ p ∈ fs.rglob path, fs.isSymlink p = false)
    (h : fs.lstat (path ++ rest) = some node) : path ++ rest ∈ fs.rglob path := by
  obtain ⟨top, htop, hdir, hwalk⟩ := (lstat_append hne).mp h
  have hnolink : ∀ p m, top.at? p = some m → m.isSymlink = false := by
    intro p m hm
    by_cases hp : p = []
    · subst hp
      rw [Node.at?_nil] at hm
      rw [← Option.some.inj hm]
      cases top with
      | dir _ => rfl
      | file _ _ => rfl
      | symlink => cases hdir
      | other => rfl
    · have hmem : path ++ p ∈ fs.rglob path := mem_rglob_iff.mpr ⟨top, p, m, htop, rfl, hp, hm⟩
      have hlstat : fs.lstat (path ++ p) = some m :=
        (lstat_append hp).mpr ⟨top, htop, hdir, walk_of_at? hm⟩
      have hfalse := hl _ hmem
      rw [isSymlink, hlstat] at hfalse
      exact hfalse
  exact mem_rglob_iff.mpr ⟨top, rest, node, htop, rfl, hne, at?_of_walk hnolink hwalk⟩

end FileSystem

end FlightSql.Lib
