import Mathlib

/-!
# Directory trees with symbolic links

A file tree gives every inode its kind, owner and mode, every directory its entries and its parent.
A path is resolved component by component: `.` stays, `..` goes to the parent, and the target of a
link takes the place of the link, at most a given number of times. What a path resolves to does not
depend on that number, so it composes along the components.
-/

namespace WolfPSA.Lib

inductive InodeKind where
  | dir
  | link (target : List Char)
  | other
  deriving DecidableEq, Repr

structure Inode where
  kind : InodeKind
  uid : Nat
  mode : Nat
  deriving DecidableEq, Repr

def Inode.isDir (node : Inode) : Bool := node.kind == .dir

def Inode.isLink : Inode → Bool
  | ⟨.link _, _, _⟩ => true
  | _ => false

/-- A tree of directories. `entry` holds the names other than `.` and `..`; only `names` of a
directory can have one. -/
structure FileTree (ι : Type) where
  inode : ι → Option Inode
  entry : ι → List Char → Option ι
  names : ι → List (List Char)
  parent : ι → ι
  root : ι
  root_dir : (inode root).any Inode.isDir
  parent_root : parent root = root
  parent_dir {i : ι} : (inode i).any Inode.isDir → (inode (parent i)).any Inode.isDir
  rooted {i : ι} : (inode i).any Inode.isDir → ∃ n, parent^[n] i = root
  entry_dir {i j : ι} {name : List Char} : entry i name = some j → (inode i).any Inode.isDir
  entry_named {i j : ι} {name : List Char} : entry i name = some j → name ∈ names i
  entry_live {i j : ι} {name : List Char} : entry i name = some j → (inode j).isSome
  entry_parent {i j : ι} {name : List Char} :
    entry i name = some j → (inode j).any Inode.isDir → parent j = i

/-! ## Path names -/

/-- What stands between the slashes of a path. -/
def components (path : List Char) : List (List Char) := (path.splitOn '/').filter (· ≠ [])

def isAbsolute (path : List Char) : Bool := path.head? == some '/'

def endsInSlash (path : List Char) : Bool := path.getLast? == some '/'

def isDot (name : List Char) : Bool := name == ['.'] || name == ['.', '.']

@[simp] theorem components_nil : components [] = [] := rfl

@[simp] theorem components_slash (path : List Char) : components ('/' :: path) = components path := by
  simp [components, List.splitOn_cons_eq_if_modifyHead]

theorem components_dropSlashes (path : List Char) :
    components (path.dropWhile (· == '/')) = components path := by
  induction path with
  | nil => rfl
  | cons c path ih =>
    by_cases slash : c = '/'
    · subst slash
      simpa using ih
    · simp [slash]

theorem components_single {name : List Char} (some_char : name ≠ []) (plain : '/' ∉ name) :
    components name = [name] := by
  rw [components, List.splitOn_eq_singleton plain]
  simp [some_char]

theorem components_cons {name : List Char} (some_char : name ≠ []) (plain : '/' ∉ name)
    (rest : List Char) : components (name ++ '/' :: rest) = name :: components rest := by
  rw [components, List.splitOn_append_cons_self_of_not_mem plain]
  simp [some_char, components]

/-- The first component and what stands behind it. -/
theorem components_split {path : List Char} (first : path.head?.any (· != '/')) :
    components path = path.takeWhile (· != '/') :: components (path.dropWhile (· != '/')) := by
  have some_char : path.takeWhile (· != '/') ≠ [] := by
    cases path with
    | nil => simp at first
    | cons c path => simp_all
  have plain : '/' ∉ path.takeWhile (· != '/') := by
    intro inside
    simpa using List.mem_takeWhile_imp inside
  have parts : path.takeWhile (· != '/') ++ path.dropWhile (· != '/') = path :=
    List.takeWhile_append_dropWhile
  cases rest : path.dropWhile (· != '/') with
  | nil =>
    rw [rest, List.append_nil] at parts
    have whole := components_single some_char plain
    rw [components_nil]
    rwa [parts] at whole ⊢
  | cons c behind =>
    have slash : c = '/' := by
      have stopped := List.head?_dropWhile_not (· != '/') path
      simpa [rest] using stopped
    subst slash
    have whole := components_cons some_char plain behind
    rw [rest] at parts
    rw [parts] at whole
    rw [whole, components_slash]

namespace FileTree

variable {ι : Type}

def isDir (fs : FileTree ι) (i : ι) : Bool := (fs.inode i).any Inode.isDir

/-- The target of a link, `none` for what is not a link. -/
def target (fs : FileTree ι) (i : ι) : Option (List Char) :=
  match fs.inode i with
  | some ⟨.link target, _, _⟩ => some target
  | _ => none

theorem target_of_isDir {fs : FileTree ι} {i : ι} (dir : fs.isDir i) : fs.target i = none := by
  unfold isDir at dir
  unfold target
  split
  · rename_i target uid mode found
    rw [found] at dir
    cases dir
  · rfl

/-! ## Resolution -/

def lookup (fs : FileTree ι) (here : ι) (name : List Char) : Option ι :=
  if fs.isDir here then
    if name = ['.'] then some here
    else if name = ['.', '.'] then some (fs.parent here)
    else fs.entry here name
  else none

/-- Where the resolution of a path starts. -/
def start (fs : FileTree ι) (here : ι) (path : List Char) : ι :=
  if isAbsolute path then fs.root else here

/-- The walk along the components, with the walk that goes on behind a link. A link in the last place
is followed only if `follow` says so. -/
def walkWith (fs : FileTree ι) (follow : Bool) (chase : ι → List (List Char) → Option ι) :
    ι → List (List Char) → Option ι
  | here, [] => some here
  | here, name :: rest =>
    match fs.lookup here name with
    | none => none
    | some next =>
      match fs.target next with
      | none => walkWith fs follow chase next rest
      | some target =>
        if rest = [] ∧ follow = false then some next
        else if target = [] then none
        else chase (fs.start here target) (components target ++ rest)

/-- The walk with at most `links` links. -/
def walk (fs : FileTree ι) (follow : Bool) : (links : Nat) → ι → List (List Char) → Option ι
  | 0 => fs.walkWith follow fun _ _ => none
  | links + 1 => fs.walkWith follow (fs.walk follow links)

/-- The inode that a path names for a system call. Slashes at the end demand a directory, and so a
link before them is followed. -/
def resolve (fs : FileTree ι) (links : Nat) (cwd : ι) (follow : Bool) (path : List Char) :
    Option ι :=
  if path = [] then none
  else
    match fs.walk (follow || endsInSlash path) links (fs.start cwd path) (components path) with
    | none => none
    | some i => if endsInSlash path && !fs.isDir i then none else some i

variable {fs : FileTree ι} {follow : Bool}

@[simp] theorem walkWith_nil (chase : ι → List (List Char) → Option ι) (here : ι) :
    fs.walkWith follow chase here [] = some here := rfl

@[simp] theorem walk_nil (links : Nat) (here : ι) : fs.walk follow links here [] = some here := by
  cases links <;> rfl

/-! ## What a walk reaches -/

/-- `here` with the components leads to an inode, however many links are followed. -/
inductive Reaches (fs : FileTree ι) (follow : Bool) : ι → List (List Char) → ι → Prop
  | done (here : ι) : Reaches fs follow here [] here
  | step {here next i : ι} {name : List Char} {rest : List (List Char)}
      (looked : fs.lookup here name = some next) (plain : fs.target next = none)
      (further : Reaches fs follow next rest i) : Reaches fs follow here (name :: rest) i
  | stop {here next : ι} {name target : List Char} (looked : fs.lookup here name = some next)
      (linked : fs.target next = some target) (kept : follow = false) :
      Reaches fs follow here [name] next
  | chase {here next i : ι} {name target : List Char} {rest : List (List Char)}
      (looked : fs.lookup here name = some next) (linked : fs.target next = some target)
      (inner : ¬ (rest = [] ∧ follow = false)) (nonempty : target ≠ [])
      (further : Reaches fs follow (fs.start here target) (components target ++ rest) i) :
      Reaches fs follow here (name :: rest) i

theorem walkWith_reaches {chase : ι → List (List Char) → Option ι}
    (sound : ∀ here names i, chase here names = some i → Reaches fs follow here names i) {here i : ι}
    {names : List (List Char)} (found : fs.walkWith follow chase here names = some i) :
    Reaches fs follow here names i := by
  induction names generalizing here with
  | nil =>
    cases found
    exact .done _
  | cons name rest ih =>
    unfold walkWith at found
    split at found
    · cases found
    rename_i next looked
    split at found
    · exact .step looked ‹_› (ih found)
    rename_i target linked
    split at found
    · rename_i last
      obtain ⟨rfl, kept⟩ := last
      cases found
      exact .stop looked linked kept
    rename_i inner
    split at found
    · cases found
    · exact .chase looked linked inner ‹_› (sound _ _ _ found)

theorem walk_reaches {links : Nat} {here i : ι} {names : List (List Char)}
    (found : fs.walk follow links here names = some i) : Reaches fs follow here names i := by
  induction links generalizing here names i with
  | zero => exact walkWith_reaches (fun _ _ _ found => by cases found) found
  | succ links ih => exact walkWith_reaches (fun _ _ _ found => ih found) found

/-- What a path names does not depend on the number of links allowed. -/
theorem Reaches.unique {here i j : ι} {names : List (List Char)}
    (left : Reaches fs follow here names i) (right : Reaches fs follow here names j) : i = j := by
  induction left with
  | done here =>
    cases right
    rfl
  | step looked plain _ ih =>
    cases right <;> simp_all
  | stop looked linked kept =>
    cases right <;> simp_all
  | chase looked linked inner nonempty _ ih =>
    cases right <;> simp_all

/-- Components are resolved one after the other. -/
theorem Reaches.append {here there i : ι} {names rest : List (List Char)}
    (first : Reaches fs true here names there) (second : Reaches fs true there rest i) :
    Reaches fs true here (names ++ rest) i := by
  induction first with
  | done => exact second
  | step looked plain _ ih => exact .step looked plain (ih second)
  | stop _ _ kept => cases kept
  | chase looked linked _ nonempty _ ih =>
    refine .chase looked linked (by simp) nonempty ?_
    change Reaches fs true _ (_ ++ (_ ++ rest)) i
    simpa only [List.append_assoc] using ih second

/-- A link in the last place apart, both ways of resolving agree. -/
theorem Reaches.unfollowed {here i : ι} {names : List (List Char)}
    (followed : Reaches fs true here names i) :
    ∃ last, Reaches fs false here names last ∧ (fs.target last = none → last = i) := by
  induction followed with
  | done here => exact ⟨here, .done here, fun _ => rfl⟩
  | step looked plain _ ih =>
    obtain ⟨last, reached, same⟩ := ih
    exact ⟨last, .step looked plain reached, same⟩
  | stop _ _ kept => cases kept
  | @chase here next i name target rest looked linked _ nonempty _ ih =>
    by_cases final : rest = []
    · subst final
      refine ⟨next, .stop looked linked rfl, fun plain => ?_⟩
      rw [plain] at linked
      cases linked
    · obtain ⟨last, reached, same⟩ := ih
      exact ⟨last, .chase looked linked (fun both => final both.1) nonempty reached, same⟩

theorem Reaches.followed {here i : ι} {names : List (List Char)}
    (reached : Reaches fs false here names i) (plain : fs.target i = none) :
    Reaches fs true here names i := by
  induction reached with
  | done here => exact .done here
  | step looked passed _ ih => exact .step looked passed (ih plain)
  | stop looked linked _ =>
    rw [plain] at linked
    cases linked
  | chase looked linked _ nonempty _ ih => exact .chase looked linked (by simp) nonempty (ih plain)

theorem resolve_reaches {links : Nat} {cwd i : ι} {path : List Char}
    (found : fs.resolve links cwd follow path = some i) :
    Reaches fs (follow || endsInSlash path) (fs.start cwd path) (components path) i := by
  unfold resolve at found
  split at found
  · cases found
  split at found
  · cases found
  rename_i walked
  split at found
  · cases found
  · cases found
    exact walk_reaches walked

theorem lookup_isDir {here i : ι} {name : List Char} (looked : fs.lookup here name = some i) :
    fs.isDir here := by
  unfold lookup at looked
  split at looked
  · assumption
  · cases looked

theorem Reaches.of_dir {here next i : ι} {name : List Char} (reached : Reaches fs follow here [name] i)
    (looked : fs.lookup here name = some next) (dir : fs.isDir next) : i = next := by
  have plain := target_of_isDir dir
  cases reached with
  | step looked' _ further =>
    cases further
    rw [looked] at looked'
    exact (Option.some.inj looked').symm
  | stop looked' linked =>
    rw [looked] at looked'
    exact (Option.some.inj looked').symm
  | chase looked' linked =>
    rw [looked] at looked'
    cases looked'
    rw [plain] at linked
    cases linked

theorem Reaches.first_isDir {here i : ι} {name : List Char} {rest : List (List Char)}
    (reached : Reaches fs follow here (name :: rest) i) : fs.isDir here := by
  cases reached with
  | step looked => exact lookup_isDir looked
  | stop looked => exact lookup_isDir looked
  | chase looked => exact lookup_isDir looked

theorem Reaches.dot {here i : ι} (reached : Reaches fs follow here [['.']] i) : i = here := by
  have dir := reached.first_isDir
  exact reached.of_dir (by simp [lookup, dir]) dir

theorem Reaches.dotdot {here i : ι} (reached : Reaches fs follow here [['.', '.']] i) :
    i = fs.parent here := by
  have dir := reached.first_isDir
  exact reached.of_dir (by simp [lookup, dir]) (fs.parent_dir dir)

/-! ## Trees that agree -/

variable {gs : FileTree ι}

theorem walkWith_mono {chase chase' : ι → List (List Char) → Option ι} (root : gs.root = fs.root)
    (targets : ∀ i, gs.target i = fs.target i)
    (lookups : ∀ here name i, fs.lookup here name = some i → gs.lookup here name = some i)
    (onward : ∀ here names i, chase here names = some i → chase' here names = some i) {here i : ι}
    {names : List (List Char)} (found : fs.walkWith follow chase here names = some i) :
    gs.walkWith follow chase' here names = some i := by
  induction names generalizing here with
  | nil => exact found
  | cons name rest ih =>
    unfold walkWith at found ⊢
    split at found
    · cases found
    rename_i next looked
    rw [lookups _ _ _ looked]
    dsimp only
    rw [targets next]
    split at found
    · exact ih found
    split at found
    · rwa [if_pos ‹_›]
    rw [if_neg ‹_›]
    split at found
    · cases found
    rw [if_neg ‹_›, start, root]
    exact onward _ _ _ found

/-- A tree that has every name of another resolves what the other resolves. -/
theorem walk_mono {links : Nat} {here i : ι} {names : List (List Char)} (root : gs.root = fs.root)
    (targets : ∀ i, gs.target i = fs.target i)
    (lookups : ∀ here name i, fs.lookup here name = some i → gs.lookup here name = some i)
    (found : fs.walk follow links here names = some i) :
    gs.walk follow links here names = some i := by
  induction links generalizing here names i with
  | zero => exact walkWith_mono root targets lookups (fun _ _ _ none => by cases none) found
  | succ links ih =>
    exact walkWith_mono root targets lookups (fun _ _ _ found => ih found) found

/-! ## A new directory -/

variable [DecidableEq ι]

/-- An entry added to a directory, or taken away. -/
def setEntry (entry : ι → List Char → Option ι) (dir : ι) (name : List Char) (value : Option ι) :
    ι → List Char → Option ι :=
  fun i other => if i = dir ∧ other = name then value else entry i other

section AddDir

variable {dir new : ι} {name : List Char} {node : Inode}

private theorem update_dir (i : ι) (node_dir : node.isDir) :
    (Function.update fs.inode new (some node) i).any Inode.isDir ↔ i = new ∨ fs.isDir i := by
  by_cases same : i = new
  · subst same
    simp [node_dir]
  · simp [same, isDir]

omit [DecidableEq ι] in
private theorem isDir_ne_free {i : ι} (there : fs.isDir i) (free : fs.inode new = none) : i ≠ new := by
  rintro rfl
  unfold isDir at there
  rw [free] at there
  cases there

private theorem iterate_update {i : ι} (there : fs.isDir i) (free : fs.inode new = none) (n : Nat) :
    (Function.update fs.parent new dir)^[n] i = fs.parent^[n] i := by
  induction n generalizing i with
  | zero => rfl
  | succ n ih =>
    have apart := isDir_ne_free there free
    rw [Function.iterate_succ_apply, Function.iterate_succ_apply, Function.update_of_ne apart]
    exact ih (fs.parent_dir there)

private theorem setEntry_some {i j : ι} {other : List Char}
    (found : setEntry fs.entry dir name (some new) i other = some j) :
    (i = dir ∧ other = name ∧ j = new) ∨ fs.entry i other = some j := by
  unfold setEntry at found
  split at found
  · rename_i here
    exact .inl ⟨here.1, here.2, (Option.some.inj found).symm⟩
  · exact .inr found

/-- The tree with the directory `new` under the name `name` of `dir`. -/
def addDir (fs : FileTree ι) (dir new : ι) (name : List Char) (node : Inode) (node_dir : node.isDir)
    (dir_dir : fs.isDir dir) (free : fs.inode new = none) : FileTree ι where
  inode := Function.update fs.inode new (some node)
  entry := setEntry fs.entry dir name (some new)
  names := Function.update fs.names dir (name :: fs.names dir)
  parent := Function.update fs.parent new dir
  root := fs.root
  root_dir := (update_dir _ node_dir).mpr (.inr fs.root_dir)
  parent_root := by
    rw [Function.update_of_ne (isDir_ne_free fs.root_dir free)]
    exact fs.parent_root
  parent_dir {i} there := by
    rw [update_dir _ node_dir] at there ⊢
    right
    by_cases same : i = new
    · rw [same, Function.update_self]
      exact dir_dir
    · rw [Function.update_of_ne same]
      exact fs.parent_dir (there.resolve_left same)
  rooted {i} there := by
    by_cases same : i = new
    · obtain ⟨n, above⟩ := fs.rooted dir_dir
      refine ⟨n + 1, ?_⟩
      rw [Function.iterate_succ_apply, same, Function.update_self, iterate_update dir_dir free]
      exact above
    · have old := ((update_dir _ node_dir).mp there).resolve_left same
      obtain ⟨n, above⟩ := fs.rooted old
      exact ⟨n, (iterate_update old free n).trans above⟩
  entry_dir found := by
    rw [update_dir _ node_dir]
    right
    obtain ⟨rfl, _, _⟩ | old := setEntry_some found
    · exact dir_dir
    · exact fs.entry_dir old
  entry_named {i j other} found := by
    by_cases here : i = dir
    · subst here
      rw [Function.update_self]
      obtain ⟨_, rfl, _⟩ | old := setEntry_some found
      · exact List.mem_cons_self
      · exact List.mem_cons_of_mem _ (fs.entry_named old)
    · rw [Function.update_of_ne here]
      obtain ⟨same, _, _⟩ | old := setEntry_some found
      · exact absurd same here
      · exact fs.entry_named old
  entry_live {i j other} found := by
    by_cases same : j = new
    · rw [same, Function.update_self]
      rfl
    · rw [Function.update_of_ne same]
      obtain ⟨_, _, created⟩ | old := setEntry_some found
      · exact absurd created same
      · exact fs.entry_live old
  entry_parent {i j other} found there := by
    obtain ⟨rfl, _, rfl⟩ | old := setEntry_some found
    · exact Function.update_self ..
    · have live := fs.entry_live old
      have apart : j ≠ new := by
        rintro rfl
        rw [free] at live
        cases live
      rw [Function.update_of_ne apart]
      exact fs.entry_parent old (((update_dir _ node_dir).mp there).resolve_left apart)

/-- The tree without the name `name` of `dir`. -/
def removeName (fs : FileTree ι) (dir : ι) (name : List Char) : FileTree ι :=
  have kept {i j : ι} {other : List Char} (found : setEntry fs.entry dir name none i other = some j) :
      fs.entry i other = some j := by
    unfold setEntry at found
    split at found
    · cases found
    · exact found
  { fs with
    entry := setEntry fs.entry dir name none
    entry_dir := fun found => fs.entry_dir (kept found)
    entry_named := fun found => fs.entry_named (kept found)
    entry_live := fun found => fs.entry_live (kept found)
    entry_parent := fun found there => fs.entry_parent (kept found) there }

variable {node_dir : node.isDir} {dir_dir : fs.isDir dir} {free : fs.inode new = none}

theorem addDir_entry : (fs.addDir dir new name node node_dir dir_dir free).entry dir name = some new :=
  if_pos ⟨rfl, rfl⟩

/-- The new directory is empty. -/
theorem addDir_entry_new (other : List Char) :
    (fs.addDir dir new name node node_dir dir_dir free).entry new other = none := by
  have apart := isDir_ne_free dir_dir free
  have empty : fs.entry new other = none := by
    cases found : fs.entry new other with
    | none => rfl
    | some i => exact absurd rfl (isDir_ne_free (fs.entry_dir found) free)
  exact (if_neg fun same => apart same.1.symm).trans empty

/-- Taking the new name away again leaves every name as it was. -/
theorem removeName_addDir_entry (fresh : fs.entry dir name = none) :
    ((fs.addDir dir new name node node_dir dir_dir free).removeName dir name).entry = fs.entry := by
  funext i other
  change setEntry (setEntry fs.entry dir name (some new)) dir name none i other = fs.entry i other
  unfold setEntry
  by_cases here : i = dir ∧ other = name
  · rw [if_pos here, here.1, here.2, fresh]
  · rw [if_neg here, if_neg here]

theorem addDir_isDir (i : ι) :
    (fs.addDir dir new name node node_dir dir_dir free).isDir i ↔ i = new ∨ fs.isDir i :=
  update_dir i node_dir

theorem addDir_target (i : ι) :
    (fs.addDir dir new name node node_dir dir_dir free).target i = fs.target i := by
  by_cases same : i = new
  · have made : (fs.addDir dir new name node node_dir dir_dir free).isDir i :=
      (addDir_isDir i).mpr (.inl same)
    rw [target_of_isDir made]
    simp [target, same, free]
  · simp [target, addDir, same]

theorem addDir_lookup {here i : ι} {other : List Char} (fresh : fs.entry dir name = none)
    (looked : fs.lookup here other = some i) :
    (fs.addDir dir new name node node_dir dir_dir free).lookup here other = some i := by
  have there : fs.isDir here := by
    by_contra gone
    simp [lookup, gone] at looked
  have apart := isDir_ne_free there free
  have still : (fs.addDir dir new name node node_dir dir_dir free).isDir here :=
    (addDir_isDir here).mpr (.inr there)
  unfold lookup at looked ⊢
  rw [if_pos there] at looked
  rw [if_pos still]
  split
  · simpa [*] using looked
  · split
    · simpa [*, addDir] using looked
    · rw [if_neg ‹_›, if_neg ‹_›] at looked
      have other_entry : ¬ (here = dir ∧ other = name) := by
        rintro ⟨rfl, rfl⟩
        rw [fresh] at looked
        cases looked
      exact (if_neg other_entry).trans looked

theorem addDir_walk {links : Nat} {here i : ι} {path : List (List Char)}
    (fresh : fs.entry dir name = none) (found : fs.walk follow links here path = some i) :
    (fs.addDir dir new name node node_dir dir_dir free).walk follow links here path = some i :=
  have root : (fs.addDir dir new name node node_dir dir_dir free).root = fs.root := rfl
  walk_mono root addDir_target (fun _ _ _ => addDir_lookup fresh) found

end AddDir

end FileTree

end WolfPSA.Lib
