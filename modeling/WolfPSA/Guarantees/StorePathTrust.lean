import WolfPSA.Source.StorePaths

/-!
# Which directories the store trusts

An accepted store path leads to a directory that nobody but the effective user and root can replace:
the walk along the path covers the directories whose entries it goes through, the walk along the
parents covers the real ancestors. The test that the store directory is no link covers the path as
the kernel resolves it, which is past the link when the path ends in a slash.
-/

namespace WolfPSA.Guarantees
open Lib Source Source.StorePaths

variable {ι : Type}

/-! ## What an accepted path should promise -/

def ownedBy (euid : Nat) (node : Inode) : Prop := node.uid = euid ∨ node.uid = 0

/-- Entries of the directory can be replaced by the effective user and root alone, or by their owners
where it is sticky. -/
def TrustedDir (euid : Nat) (fs : FileTree ι) (i : ι) : Prop :=
  ∃ node, fs.inode i = some node ∧ node.isDir ∧ ownedBy euid node ∧
    (node.mode &&& groupOtherWrite = 0 ∨ node.mode &&& stickyBit ≠ 0)

def PrivateDir (euid : Nat) (fs : FileTree ι) (i : ι) : Prop :=
  ∃ node, fs.inode i = some node ∧ node.isDir ∧ ownedBy euid node ∧ node.mode &&& groupOtherWrite = 0

theorem PrivateDir.trusted {euid : Nat} {fs : FileTree ι} {i : ι} (own : PrivateDir euid fs i) :
    TrustedDir euid fs i := by
  obtain ⟨node, found, dir, owned, closed⟩ := own
  exact ⟨node, found, dir, owned, .inl closed⟩

/-- The path with its links followed leads to `i`. -/
def LeadsTo (host : Host ι) (fs : FileTree ι) (path : Path) (i : ι) : Prop :=
  fs.Reaches true (fs.start host.cwd path) (components path) i

/-- The last component of the path, as written, is `i`. -/
def LastNamed (host : Host ι) (fs : FileTree ι) (path : Path) (i : ι) : Prop :=
  fs.Reaches false (fs.start host.cwd path) (components path) i

/-- The named component of the path behind `before` is looked up in `dir`. -/
def LooksIn (host : Host ι) (fs : FileTree ι) (path : Path) (dir : ι) : Prop :=
  ∃ before name after, components path = before ++ name :: after ∧ isDot name = false ∧
    fs.Reaches true (fs.start host.cwd path) before dir

/-- The leaf as written is a private directory and no link. -/
def LeafPrivate (host : Host ι) (fs : FileTree ι) (path : Path) : Prop :=
  ∃ i, LastNamed host fs path i ∧ PrivateDir host.euid fs i

/-- The path ends in a private directory, with trusted directories all along the path and above its
end. -/
structure ReachedSafely (host : Host ι) (fs : FileTree ι) (path : Path) : Prop where
  ends : ∃ i, LeadsTo host fs path i ∧ PrivateDir host.euid fs i
  lookups : ∀ dir, LooksIn host fs path dir → TrustedDir host.euid fs dir
  ancestors : ∀ i, LeadsTo host fs path i → ∀ n, TrustedDir host.euid fs (fs.parent^[n] i)

/-! ## The directories the walk goes through -/

/-- A walk that tests each directory in which it looks up a name. -/
inductive Walked (euid : Nat) (fs : FileTree ι) : ι → List Path → ι → Prop
  | done (dir : ι) : Walked euid fs dir [] dir
  | step {dir next leaf : ι} {name : Path} {rest : List Path}
      (held : isDot name = false → TrustedDir euid fs dir) (taken : fs.Reaches true dir [name] next)
      (further : Walked euid fs next rest leaf) : Walked euid fs dir (name :: rest) leaf

variable {euid : Nat} {fs : FileTree ι}

theorem Walked.reaches {dir leaf : ι} {names : List Path} (walked : Walked euid fs dir names leaf) :
    fs.Reaches true dir names leaf := by
  induction walked with
  | done dir => exact .done dir
  | step _ taken _ ih => exact taken.append ih

theorem Walked.holder {dir leaf : ι} {names before after : List Path} {name : Path}
    (walked : Walked euid fs dir names leaf) (parts : names = before ++ name :: after)
    (named : isDot name = false) :
    ∃ held, fs.Reaches true dir before held ∧ TrustedDir euid fs held := by
  induction walked generalizing before with
  | done => simp at parts
  | @step dir next leaf first rest held taken _ ih =>
    cases before with
    | nil =>
      obtain ⟨rfl, _⟩ := List.cons.inj parts
      exact ⟨dir, .done dir, held named⟩
    | cons _ before =>
      obtain ⟨rfl, others⟩ := List.cons.inj parts
      obtain ⟨holder, reached, trusted⟩ := ih others
      exact ⟨holder, taken.append reached, trusted⟩

/-! ## Programs that only look -/

variable [DecidableEq ι] {host : Host ι} {α β : Type}

/-- Whichever calls fail, the program leaves the tree alone and returns in `post`. -/
def Looks (host : Host ι) (fs : FileTree ι) (post : α → Prop) (p : DirProg ι α) : Prop :=
  Prog.Triple (dirHandler host) (fun _ => True) (fun _ => True) (fun value s => s = fs ∧ post value)
    p fs

theorem looks_ret {post : α → Prop} {value : α} (holds : post value) :
    Looks host fs post (Prog.ret value) := ⟨rfl, holds⟩

theorem looks_bind {post₁ : α → Prop} {post : β → Prop} {p : DirProg ι α} {k : α → DirProg ι β}
    (first : Looks host fs post₁ p) (second : ∀ value, post₁ value → Looks host fs post (k value)) :
    Looks host fs post (p >>= k) := by
  refine Prog.triple_bind_of first ?_
  rintro value _ ⟨rfl, holds⟩
  exact second value holds

private theorem looks_act {post : β → Prop} {a : DirAct ι} {k : DirRes ι a → DirProg ι β}
    (same : ∀ fault, (dirHandler host fault a fs).2 = fs)
    (all : ∀ fault, Looks host fs post (k (dirHandler host fault a fs).1)) :
    Looks host fs post (.perform a >>= k) := by
  refine ⟨trivial, fun fault _ => ?_⟩
  rw [same fault]
  exact all fault

theorem looks_lstat {post : β → Prop} {path : Path} {k : Option (Stat ι) → DirProg ι β}
    (failed : Looks host fs post (k none))
    (found : ∀ i node, fs.resolve host.links host.cwd false path = some i → fs.inode i = some node →
      Looks host fs post (k (some ⟨i, node⟩))) : Looks host fs post (lstat path >>= k) := by
  refine looks_act (fun _ => rfl) fun fault => ?_
  dsimp only [dirHandler]
  split
  · exact failed
  cases resolved : fs.resolve host.links host.cwd false path with
  | none => exact failed
  | some i =>
    cases held : fs.inode i with
    | none => simpa [statOf, held] using failed
    | some node => simpa [statOf, held] using found i node resolved held

theorem looks_fstat {post : β → Prop} {fd : ι} {k : Option (Stat ι) → DirProg ι β}
    (failed : Looks host fs post (k none))
    (found : ∀ node, fs.inode fd = some node → Looks host fs post (k (some ⟨fd, node⟩))) :
    Looks host fs post (fstat fd >>= k) := by
  refine looks_act (fun _ => rfl) fun fault => ?_
  dsimp only [dirHandler]
  split
  · exact failed
  cases held : fs.inode fd with
  | none => simpa [statOf, held] using failed
  | some node => simpa [statOf, held] using found node held

theorem looks_openDir {post : β → Prop} {path : Path} {k : Option ι → DirProg ι β}
    (failed : Looks host fs post (k none))
    (found : ∀ fd, openWalk host fs host.cwd path = some fd → Looks host fs post (k (some fd))) :
    Looks host fs post (openDir path >>= k) := by
  refine looks_act (fun _ => rfl) fun fault => ?_
  dsimp only [dirHandler]
  split
  · exact failed
  cases opened : openWalk host fs host.cwd path with
  | none => exact failed
  | some fd => exact found fd opened

theorem looks_openAt {post : β → Prop} {fd : ι} {name : Path} {k : Option ι → DirProg ι β}
    (failed : Looks host fs post (k none))
    (found : ∀ next, openWalk host fs fd name = some next → Looks host fs post (k (some next))) :
    Looks host fs post (openAt fd name >>= k) := by
  refine looks_act (fun _ => rfl) fun fault => ?_
  dsimp only [dirHandler]
  split
  · exact failed
  cases opened : openWalk host fs fd name with
  | none => exact failed
  | some next => exact found next opened

theorem looks_close {post : β → Prop} {fd : ι} {k : Unit → DirProg ι β}
    (rest : Looks host fs post (k ())) : Looks host fs post (close fd >>= k) :=
  looks_act (fun _ => rfl) fun _ => rest

/-! ## The two walks -/

omit [DecidableEq ι] in
theorem openWalk_reaches {fd next : ι} {name : Path} (opened : openWalk host fs fd name = some next) :
    fs.Reaches true (fs.start fd name) (components name) next ∧ fs.isDir next := by
  obtain ⟨resolved, dir⟩ := Option.filter_eq_some_iff.mp opened
  exact ⟨FileTree.resolve_reaches resolved, dir⟩

theorem checkLeaf_looks (path : Path) :
    Looks host fs (fun ret => ret = .ok → ∃ i, fs.resolve host.links host.cwd false path = some i ∧
      PrivateDir host.euid fs i) (wolfPSAStoreCheckLeaf host.euid path) := by
  unfold wolfPSAStoreCheckLeaf
  refine looks_lstat (looks_ret nofun) fun i node resolved held => ?_
  dsimp only
  split
  · exact looks_ret nofun
  rename_i dir
  split
  · exact looks_ret nofun
  split
  · exact looks_ret nofun
  rename_i own
  refine looks_ret fun _ => ⟨i, resolved, node, held, by simpa using dir, ?_⟩
  unfold ownedBy
  omega

theorem checkDirFd_looks (fd : ι) :
    Looks host fs (fun ret => ret = .ok → TrustedDir host.euid fs fd)
      (wolfPSAStoreCheckDirFd host.euid fd) := by
  unfold wolfPSAStoreCheckDirFd
  refine looks_fstat (looks_ret nofun) fun node held => ?_
  dsimp only
  split
  · exact looks_ret nofun
  rename_i dir
  split
  · exact looks_ret nofun
  rename_i owned
  split
  · exact looks_ret nofun
  rename_i closed
  refine looks_ret fun _ => ⟨node, held, by simpa using dir, ?_, ?_⟩
  · unfold ownedBy
    omega
  · by_contra neither
    simp_all

/-- The part of the path behind the slashes begins with a component. -/
private theorem first_component {p : Path} (more : p.dropWhile (· == '/') ≠ []) :
    (p.dropWhile (· == '/')).takeWhile (· != '/') ≠ [] ∧
      '/' ∉ (p.dropWhile (· == '/')).takeWhile (· != '/') ∧
      components p = (p.dropWhile (· == '/')).takeWhile (· != '/') ::
        components ((p.dropWhile (· == '/')).drop
          ((p.dropWhile (· == '/')).takeWhile (· != '/')).length) := by
  have stopped := List.head?_dropWhile_not (· == '/') p
  rw [← components_dropSlashes p]
  generalize p.dropWhile (· == '/') = rest at more stopped ⊢
  obtain _ | ⟨c, rest⟩ := rest
  · exact absurd rfl more
  have first : c ≠ '/' := by simpa using stopped
  have behind : (c :: rest).drop ((c :: rest).takeWhile (· != '/')).length =
      (c :: rest).dropWhile (· != '/') := by
    have parts := List.takeWhile_append_dropWhile (p := (· != '/')) (l := c :: rest)
    calc (c :: rest).drop ((c :: rest).takeWhile (· != '/')).length
      _ = ((c :: rest).takeWhile (· != '/') ++ (c :: rest).dropWhile (· != '/')).drop
            ((c :: rest).takeWhile (· != '/')).length := by rw [parts]
      _ = (c :: rest).dropWhile (· != '/') := List.drop_left
  refine ⟨by simp [first], fun inside => ?_, ?_⟩
  · simpa using List.mem_takeWhile_imp inside
  · rw [behind]
    exact components_split (by simpa using first)

/-- What the walk along the path answers: the open leaf, or a verdict against the path. -/
def WalkedOrRefused (euid : Nat) (fs : FileTree ι) (dir : ι) (names : List Path) :
    Except PathCheck ι → Prop
  | .ok leaf => Walked euid fs dir names leaf
  | .error ret => ret ≠ .ok

theorem checkLexicalFrom_looks (depth : Nat) (fd : ι) (p : Path) :
    Looks host fs (WalkedOrRefused host.euid fs fd (components p))
      (checkLexicalFrom host.euid depth fd p) := by
  induction depth generalizing fd p with
  | zero => exact looks_close (looks_ret nofun)
  | succ depth ih =>
    unfold checkLexicalFrom
    dsimp only
    split
    · rename_i empty
      rw [← components_dropSlashes, empty]
      exact looks_ret (.done fd)
    rename_i more
    obtain ⟨nonempty, plain, parts⟩ := first_component more
    generalize (p.dropWhile (· == '/')).takeWhile (· != '/') = comp at nonempty plain parts ⊢
    split
    · exact looks_close (looks_ret nofun)
    have held : Looks host fs
        (fun ret => ret = .ok → isDot comp = false → TrustedDir host.euid fs fd)
        (if isDot comp then pure .ok else wolfPSAStoreCheckDirFd host.euid fd) := by
      split
      · rename_i dot
        exact looks_ret fun _ named => by simp [dot] at named
      · exact (checkDirFd_looks fd).mono (fun _ => id) fun ret s both =>
          ⟨both.1, fun ok _ => both.2 ok⟩
    refine looks_bind held fun ret trusted => ?_
    split
    · exact looks_close (looks_ret ‹_›)
    rename_i ok
    refine looks_openAt (looks_close (looks_ret nofun)) fun next opened => looks_close ?_
    obtain ⟨reached, _⟩ := openWalk_reaches opened
    have relative : isAbsolute comp = false := by
      unfold isAbsolute
      obtain _ | ⟨c, comp⟩ := comp
      · rfl
      · rw [List.mem_cons, not_or] at plain
        simpa using Ne.symm plain.1
    rw [FileTree.start, relative, components_single nonempty plain] at reached
    refine (ih next _).mono (fun _ => id) fun r s both => ⟨both.1, ?_⟩
    rw [parts]
    cases r with
    | ok leaf => exact .step (trusted (not_not.mp ok)) reached both.2
    | error ret => exact both.2

omit [DecidableEq ι] in
/-- The first directory of the walk along the path. -/
theorem openStart {path : Path} {fd : ι}
    (opened : openWalk host fs host.cwd (if isAbsolute path then ['/'] else ['.']) = some fd) :
    fd = fs.start host.cwd path := by
  obtain ⟨reached, _⟩ := openWalk_reaches opened
  unfold FileTree.start
  split at reached
  · cases reached
    rw [if_pos ‹_›]
    rfl
  · rw [if_neg ‹_›]
    exact reached.dot

theorem checkLexical_looks (path : Path) :
    Looks host fs (WalkedOrRefused host.euid fs (fs.start host.cwd path) (components path))
      (wolfPSAStoreCheckLexical host.euid path) := by
  unfold wolfPSAStoreCheckLexical
  refine looks_openDir (looks_ret nofun) fun fd opened => ?_
  rw [← openStart opened]
  exact checkLexicalFrom_looks storeMaxDepth fd path

theorem checkAncestorsFrom_looks (depth : Nat) (fd : ι) (node : Inode) :
    Looks host fs (fun ret => ret = .ok → TrustedDir host.euid fs fd →
        ∀ n, TrustedDir host.euid fs (fs.parent^[n] fd))
      (checkAncestorsFrom host.euid depth fd ⟨fd, node⟩) := by
  induction depth generalizing fd node with
  | zero => exact looks_close (looks_ret nofun)
  | succ depth ih =>
    unfold checkAncestorsFrom
    refine looks_openAt (looks_close (looks_ret nofun)) fun parent opened => looks_close ?_
    have above : parent = fs.parent fd := (openWalk_reaches opened).1.dotdot
    subst above
    refine looks_fstat (looks_close (looks_ret nofun)) fun parentNode _ => ?_
    dsimp only
    split
    · rename_i top
      refine looks_close (looks_ret fun _ trusted n => ?_)
      rw [Function.iterate_fixed top]
      exact trusted
    refine looks_bind (checkDirFd_looks (fs.parent fd)) fun ret held => ?_
    split
    · rename_i refused
      exact looks_close (looks_ret fun ok => absurd ok refused)
    rename_i ok
    refine (ih (fs.parent fd) parentNode).mono (fun _ => id) fun r s both =>
      ⟨both.1, fun accepted trusted n => ?_⟩
    cases n with
    | zero => exact trusted
    | succ n => exact both.2 accepted (held (not_not.mp ok)) n

theorem checkAncestors_looks (fd : ι) :
    Looks host fs (fun ret => ret = .ok → TrustedDir host.euid fs fd →
        ∀ n, TrustedDir host.euid fs (fs.parent^[n] fd))
      (wolfPSAStoreCheckAncestors host.euid fd) := by
  unfold wolfPSAStoreCheckAncestors
  exact looks_fstat (looks_close (looks_ret nofun)) fun node _ =>
    checkAncestorsFrom_looks storeMaxDepth fd node

/-! ## The check of a path -/

/-- What the calls of an accepted check have seen. -/
structure Accepted (host : Host ι) (fs : FileTree ι) (path : Path) (leaf : ι) : Prop where
  seen : ∃ i, fs.resolve host.links host.cwd false path = some i ∧ PrivateDir host.euid fs i
  walked : Walked host.euid fs (fs.start host.cwd path) (components path) leaf
  above : TrustedDir host.euid fs leaf → ∀ n, TrustedDir host.euid fs (fs.parent^[n] leaf)

theorem checkPath_looks (path : Path) :
    Looks host fs (fun ret => ret = .ok → ∃ leaf, Accepted host fs path leaf)
      (StorePaths.wolfPSAStoreCheckPath host.euid path) := by
  unfold StorePaths.wolfPSAStoreCheckPath
  refine looks_bind (checkLeaf_looks path) fun ret seen => ?_
  split
  · rename_i refused
    exact looks_ret fun ok => absurd ok refused
  rename_i ok
  refine looks_bind (checkLexical_looks path) fun lexical walked => ?_
  cases lexical with
  | error ret => exact looks_ret fun accepted => absurd accepted walked
  | ok leaf =>
    exact (checkAncestors_looks leaf).mono (fun _ => id) fun ret s both =>
      ⟨both.1, fun accepted =>
        ⟨leaf, seen (not_not.mp ok), walked, both.2 accepted⟩⟩

/-- The path is the name of a link with slashes behind it. -/
def SlashedLink (host : Host ι) (fs : FileTree ι) (path : Path) : Prop :=
  endsInSlash path ∧ ∃ i, LastNamed host fs path i ∧ (fs.target i).isSome

omit [DecidableEq ι] in
theorem PrivateDir.isDir {i : ι} (own : PrivateDir euid fs i) : fs.isDir i := by
  obtain ⟨node, found, dir, _⟩ := own
  simp [FileTree.isDir, found, dir]

omit [DecidableEq ι] in
/-- The directory that `lstat` sees is the one the walk along the path ends in. -/
theorem Accepted.private_leaf {path : Path} {leaf : ι} (accepted : Accepted host fs path leaf) :
    PrivateDir host.euid fs leaf := by
  obtain ⟨i, resolved, own⟩ := accepted.seen
  have seen := FileTree.resolve_reaches resolved
  have followed : LeadsTo host fs path i := by
    cases slash : endsInSlash path with
    | true => rwa [slash] at seen
    | false =>
      rw [slash] at seen
      exact seen.followed (FileTree.target_of_isDir own.isDir)
  rwa [followed.unique accepted.walked.reaches] at own

omit [DecidableEq ι] in
theorem Accepted.reachedSafely {path : Path} {leaf : ι} (accepted : Accepted host fs path leaf) :
    ReachedSafely host fs path := by
  have own := accepted.private_leaf
  refine ⟨⟨leaf, accepted.walked.reaches, own⟩, ?_, ?_⟩
  · rintro dir ⟨before, name, after, parts, named, reached⟩
    obtain ⟨held, reached', trusted⟩ := accepted.walked.holder parts named
    rwa [reached.unique reached']
  · intro i reached
    rw [reached.unique accepted.walked.reaches]
    exact accepted.above own.trusted

omit [DecidableEq ι] in
theorem Accepted.leafPrivate_iff {path : Path} {leaf : ι} (accepted : Accepted host fs path leaf) :
    LeafPrivate host fs path ↔ ¬ SlashedLink host fs path := by
  constructor
  · rintro ⟨i, named, own⟩ ⟨_, j, named', linked⟩
    rw [named'.unique named, FileTree.target_of_isDir own.isDir] at linked
    cases linked
  · intro unlinked
    obtain ⟨last, named, same⟩ := accepted.walked.reaches.unfollowed
    have plain : fs.target last = none := by
      by_contra linked
      cases slash : endsInSlash path with
      | true => exact unlinked ⟨slash, last, named, Option.isSome_iff_ne_none.mpr linked⟩
      | false =>
        obtain ⟨i, resolved, own⟩ := accepted.seen
        have seen := FileTree.resolve_reaches resolved
        rw [slash] at seen
        rw [named.unique seen] at linked
        exact linked (FileTree.target_of_isDir own.isDir)
    exact ⟨last, named, same plain ▸ accepted.private_leaf⟩

/-! ## The directory that is made -/

/-- The faults that are left after `n` calls. -/
def later (faults : Nat → DirFault ι) (n : Nat) : Nat → DirFault ι := fun m => faults (m + n)

section EnsureDir

variable (host : Host ι) (fs : FileTree ι) (faults : Nat → DirFault ι) (path : Path)

/-- The calls before `wolfPSA_StoreEnsureDir` makes the directory. -/
def callsBefore : Nat :=
  Prog.calls (dirHandler host) faults (wolfPSAStoreValidatePath host.euid path) fs

/-- What its call of `mkdir` does. -/
def made : MkdirResult × FileTree ι :=
  dirHandler host (faults (callsBefore host fs faults path)) (.mkdir path) fs

/-- It makes a directory. -/
def Creates : Prop :=
  path ≠ [] ∧ ((wolfPSAStoreValidatePath host.euid path).run (dirHandler host) faults fs).1 = false ∧
    (made host fs faults path).1 = .created

/-- The faults of the check of the directory just made. -/
def recheckFaults : Nat → DirFault ι := later faults (callsBefore host fs faults path + 1)

/-- The verdict on the directory just made. -/
def verdict : PathCheck :=
  ((StorePaths.wolfPSAStoreCheckPath host.euid path).run (dirHandler host)
    (recheckFaults host fs faults path) (made host fs faults path).2).1

/-- The call that takes the directory away again fails of itself. -/
def removalFails : Bool :=
  (recheckFaults host fs faults path (Prog.calls (dirHandler host) (recheckFaults host fs faults path)
    (StorePaths.wolfPSAStoreCheckPath host.euid path) (made host fs faults path).2)).fails

end EnsureDir

theorem Looks.run {post : α → Prop} {p : DirProg ι α} (looks : Looks host fs post p)
    (faults : Nat → DirFault ι) :
    (p.run (dirHandler host) faults fs).2 = fs ∧ post (p.run (dirHandler host) faults fs).1 :=
  Prog.Triple.run_every looks faults

theorem validatePath_looks (path : Path) :
    Looks host fs (fun _ => True) (wolfPSAStoreValidatePath host.euid path) :=
  looks_bind (checkPath_looks path) fun _ _ => looks_ret trivial

/-- The new directory answers to its path, and it is empty. -/
theorem lastEntry_addDir {dir fresh : ι} {name : Path} {path : Path} {node : Inode}
    {node_dir : node.isDir} {dir_dir : fs.isDir dir} {free : fs.inode fresh = none}
    (place : lastEntry host fs path = some (dir, name)) (unused : fs.entry dir name = none) :
    lastEntry host (fs.addDir dir fresh name node node_dir dir_dir free) path = some (dir, name) := by
  unfold lastEntry at place ⊢
  split at place
  · cases place
  split at place
  · cases place
  split at place
  · cases place
  rename_i last _ reached walked
  cases place
  rw [if_neg ‹_›]
  have root : (fs.addDir dir fresh name node node_dir dir_dir free).start host.cwd path =
      fs.start host.cwd path := rfl
  rw [root, FileTree.addDir_walk unused walked]

theorem removeDir_addDir {dir fresh : ι} {name : Path} {path : Path} {node : Inode}
    {node_dir : node.isDir} {dir_dir : fs.isDir dir} {free : fs.inode fresh = none}
    (place : lastEntry host fs path = some (dir, name)) (unused : fs.entry dir name = none) :
    (removeDir host (fs.addDir dir fresh name node node_dir dir_dir free) path).2.entry =
      fs.entry := by
  have here : lastEntry host (fs.addDir dir fresh name node node_dir dir_dir free) path =
      some (dir, name) := lastEntry_addDir place unused
  have dir_new : (fs.addDir dir fresh name node node_dir dir_dir free).isDir fresh :=
    (FileTree.addDir_isDir fresh).mpr (.inl rfl)
  have empty : ∀ other, (fs.addDir dir fresh name node node_dir dir_dir free).entry fresh other = none :=
    FileTree.addDir_entry_new
  have removed : (removeDir host (fs.addDir dir fresh name node node_dir dir_dir free) path).2 =
      (fs.addDir dir fresh name node node_dir dir_dir free).removeName dir name := by
    simp [removeDir, here, FileTree.addDir_entry, dir_new, empty]
  rw [removed]
  exact FileTree.removeName_addDir_entry unused

/-- A directory just made can be taken away again under the same path. -/
theorem removeDir_made {fresh : ι} {path : Path} {grown : FileTree ι}
    (creates : makeDir host fs fresh path = (.created, grown)) :
    grown.entry ≠ fs.entry ∧ (removeDir host grown path).2.entry = fs.entry := by
  unfold makeDir at creates
  split at creates
  · have answer := (Prod.mk.inj creates).1
    split at answer <;> cases answer
  rename_i dir name place
  split at creates
  · cases creates
  rename_i taken
  have unused : fs.entry dir name = none := by simpa using taken
  split at creates
  · cases creates
    refine ⟨fun same => ?_, removeDir_addDir place unused⟩
    have unchanged := FileTree.addDir_entry.symm.trans (congrFun (congrFun same dir) name)
    rw [unused] at unchanged
    cases unchanged
  · cases creates

/-- `wolfPSA_StoreEnsureDir` after its first check of the path. -/
theorem ensureDir_run (faults : Nat → DirFault ι) (path : Path) (given : path ≠ []) :
    (StorePaths.wolfPSAStoreEnsureDir host.euid path).run (dirHandler host) faults fs =
      if ((wolfPSAStoreValidatePath host.euid path).run (dirHandler host) faults fs).1 then (true, fs)
      else
        match (made host fs faults path).1 with
        | .created =>
          Prog.run (dirHandler host) (recheckFaults host fs faults path)
            (StorePaths.wolfPSAStoreCheckPath host.euid path >>= fun ret =>
              if ret = .rejected then rmdir path >>= fun _ => pure (ret == .ok)
              else pure (ret == .ok)) (made host fs faults path).2
        | .exists =>
          Prog.run (dirHandler host) (recheckFaults host fs faults path)
            (wolfPSAStoreValidatePath host.euid path) (made host fs faults path).2
        | .failed => (false, (made host fs faults path).2) := by
  unfold StorePaths.wolfPSAStoreEnsureDir
  rw [if_neg given, Prog.run_bind, ((validatePath_looks path).run faults).1]
  split
  · rfl
  · have first : dirHandler host
        (faults (0 + Prog.calls (dirHandler host) faults (wolfPSAStoreValidatePath host.euid path) fs))
        (.mkdir path) fs = made host fs faults path := by
      rw [Nat.zero_add]
      rfl
    have rest : (fun n => faults (n + 1 +
        Prog.calls (dirHandler host) faults (wolfPSAStoreValidatePath host.euid path) fs)) =
        recheckFaults host fs faults path := by
      funext n
      exact congrArg faults (by unfold callsBefore; omega)
    rw [StorePaths.mkdir, Prog.perform_bind, Prog.run, first, rest]
    cases (made host fs faults path).1 <;> rfl

/-- `made` is `mkdir`, unless the call fails of itself. -/
theorem made_created {faults : Nat → DirFault ι} {path : Path}
    (created : (made host fs faults path).1 = .created) :
    ∃ fresh, makeDir host fs fresh path = (.created, (made host fs faults path).2) := by
  unfold made at created ⊢
  dsimp only [dirHandler] at created ⊢
  split at created
  · cases created
  · rename_i works
    rw [if_neg works]
    exact ⟨_, Prod.ext created rfl⟩

theorem makeDir_other (fresh : ι) (path : Path) :
    (makeDir host fs fresh path).1 = .created ∨ (makeDir host fs fresh path).2 = fs := by
  unfold makeDir
  split
  · exact .inr rfl
  split
  · exact .inr rfl
  split
  · exact .inl rfl
  · exact .inr rfl

theorem made_other {faults : Nat → DirFault ι} {path : Path}
    (other : (made host fs faults path).1 ≠ .created) : (made host fs faults path).2 = fs := by
  unfold made at other ⊢
  dsimp only [dirHandler] at other ⊢
  split
  · rfl
  rw [if_neg ‹_›] at other
  exact (makeDir_other _ path).resolve_left other

/-- The directory stays unless the check of it refuses it and its removal goes through. -/
theorem ensureDir_created {faults : Nat → DirFault ι} {path : Path}
    (creates : Creates host fs faults path) :
    ((StorePaths.wolfPSAStoreEnsureDir host.euid path).run (dirHandler host) faults fs).2.entry ≠
        fs.entry ↔
      verdict host fs faults path ≠ .rejected ∨ removalFails host fs faults path := by
  obtain ⟨given, refused, created⟩ := creates
  rw [ensureDir_run faults path given, refused, created]
  obtain ⟨fresh, grown⟩ := made_created created
  obtain ⟨differs, restored⟩ := removeDir_made grown
  rw [if_neg Bool.false_ne_true]
  dsimp only
  rw [Prog.run_bind, ((checkPath_looks path).run _).1]
  by_cases rejected : verdict host fs faults path = .rejected
  · have removed : dirHandler host (recheckFaults host fs faults path (0 + Prog.calls (dirHandler host)
        (recheckFaults host fs faults path) (StorePaths.wolfPSAStoreCheckPath host.euid path)
        (made host fs faults path).2)) (.rmdir path) (made host fs faults path).2 =
        if removalFails host fs faults path then (false, (made host fs faults path).2)
        else removeDir host (made host fs faults path).2 path := by
      rw [Nat.zero_add]
      rfl
    unfold verdict at rejected ⊢
    rw [if_pos rejected, StorePaths.rmdir, Prog.perform_bind, Prog.run, removed]
    cases fails : removalFails host fs faults path with
    | true => simpa [Prog.run] using differs
    | false => simp [Prog.run, restored, rejected]
  · unfold verdict at rejected ⊢
    rw [if_neg rejected]
    simpa [Prog.run, rejected] using differs

theorem ensureDir_untouched {faults : Nat → DirFault ι} {path : Path}
    (other : ¬ Creates host fs faults path) :
    ((StorePaths.wolfPSAStoreEnsureDir host.euid path).run (dirHandler host) faults fs).2 = fs := by
  by_cases given : path = []
  · subst given
    rfl
  rw [ensureDir_run faults path given]
  split
  · rfl
  rename_i refused
  have kept : (made host fs faults path).1 ≠ .created := fun created =>
    other ⟨given, by simpa using refused, created⟩
  rw [made_other kept]
  cases answer : (made host fs faults path).1 with
  | created => exact absurd answer kept
  | «exists» => exact ((validatePath_looks path).run _).1
  | failed => rfl

/-! ## The number of calls -/

omit [DecidableEq ι] in
theorem checkDirFd_within (euid : Nat) (fd : ι) : (wolfPSAStoreCheckDirFd euid fd).Within 1 := by
  refine Prog.within_act fun answer => ?_
  split
  · exact Prog.within_ret ..
  split
  · exact Prog.within_ret ..
  split
  · exact Prog.within_ret ..
  dsimp only
  split <;> exact Prog.within_ret ..

omit [DecidableEq ι] in
theorem checkLeaf_within (euid : Nat) (path : Path) :
    (wolfPSAStoreCheckLeaf euid path : DirProg ι PathCheck).Within 1 := by
  refine Prog.within_act fun answer => ?_
  split
  · exact Prog.within_ret ..
  split
  · exact Prog.within_ret ..
  split
  · exact Prog.within_ret ..
  split <;> exact Prog.within_ret ..

omit [DecidableEq ι] in
/-- A component costs at most three calls. -/
theorem checkLexicalFrom_within (euid depth : Nat) (fd : ι) (p : Path) :
    (checkLexicalFrom euid depth fd p).Within (3 * depth + 1) := by
  induction depth generalizing fd p with
  | zero => exact Prog.within_act fun _ => Prog.within_ret ..
  | succ depth ih =>
    unfold checkLexicalFrom
    dsimp only
    split
    · exact Prog.within_ret ..
    split
    · exact Prog.within_act fun _ => Prog.within_ret ..
    have held (comp : Path) :
        (if isDot comp then pure .ok else wolfPSAStoreCheckDirFd euid fd).Within 1 := by
      split
      · exact Prog.within_ret ..
      · exact checkDirFd_within euid fd
    refine (Prog.within_bind (n := 3 * depth + 3) (held _) fun ret => ?_).mono (by omega)
    split
    · exact Prog.within_act fun _ => Prog.within_ret ..
    refine Prog.within_act fun next => Prog.within_act fun _ => ?_
    split
    · exact Prog.within_ret ..
    · exact ih ..

omit [DecidableEq ι] in
theorem checkLexical_within (euid : Nat) (path : Path) :
    (wolfPSAStoreCheckLexical euid path : DirProg ι (Except PathCheck ι)).Within
      (3 * storeMaxDepth + 2) := by
  refine Prog.within_act fun fd => ?_
  split
  · exact Prog.within_ret ..
  · exact checkLexicalFrom_within ..

/-- A parent costs at most four calls. -/
theorem checkAncestorsFrom_within (euid depth : Nat) (fd : ι) (st : Stat ι) :
    (checkAncestorsFrom euid depth fd st).Within (4 * depth + 1) := by
  induction depth generalizing fd st with
  | zero => exact Prog.within_act fun _ => Prog.within_ret ..
  | succ depth ih =>
    refine Prog.within_act fun parent => Prog.within_act fun _ => ?_
    split
    · exact Prog.within_ret ..
    refine Prog.within_act fun parentSt => ?_
    split
    · exact Prog.within_act fun _ => Prog.within_ret ..
    split
    · exact Prog.within_act fun _ => Prog.within_ret ..
    change Prog.Within (4 * depth + 2) _
    refine (Prog.within_bind (n := 4 * depth + 1) (checkDirFd_within euid _) fun ret => ?_).mono
      (by omega)
    split
    · exact Prog.within_act fun _ => Prog.within_ret ..
    · exact ih ..

theorem checkAncestors_within (euid : Nat) (fd : ι) :
    (wolfPSAStoreCheckAncestors euid fd).Within (4 * storeMaxDepth + 2) := by
  refine Prog.within_act fun st => ?_
  split
  · exact Prog.within_act fun _ => Prog.within_ret ..
  · exact checkAncestorsFrom_within ..

/-- The calls of one check of a path. -/
def checkPathCalls : Nat := 7 * storeMaxDepth + 5

theorem checkPath_within (euid : Nat) (path : Path) :
    (StorePaths.wolfPSAStoreCheckPath euid path : DirProg ι PathCheck).Within checkPathCalls := by
  refine (Prog.within_bind (n := 7 * storeMaxDepth + 4) (checkLeaf_within euid path)
    fun ret => ?_).mono (by unfold checkPathCalls; omega)
  split
  · exact Prog.within_ret ..
  refine (Prog.within_bind (n := 4 * storeMaxDepth + 2) (checkLexical_within euid path)
    fun lexical => ?_).mono (by omega)
  split
  · exact Prog.within_ret ..
  · rename_i leafFd
    exact checkAncestors_within euid leafFd

theorem validatePath_within (euid : Nat) (path : Path) :
    (wolfPSAStoreValidatePath euid path : DirProg ι Bool).Within checkPathCalls :=
  Prog.within_bind (n := 0) (checkPath_within euid path) fun _ => Prog.within_ret ..

theorem ensureDir_within (euid : Nat) (path : Path) :
    (StorePaths.wolfPSAStoreEnsureDir euid path : DirProg ι Bool).Within
      (2 * checkPathCalls + 2) := by
  unfold StorePaths.wolfPSAStoreEnsureDir
  split
  · exact Prog.within_ret ..
  refine (Prog.within_bind (n := checkPathCalls + 2) (validatePath_within euid path)
    fun valid => ?_).mono (by omega)
  split
  · exact Prog.within_ret ..
  refine Prog.within_act fun answer => ?_
  split
  · refine Prog.within_bind (n := 1) (checkPath_within euid path) fun ret => ?_
    split
    · exact Prog.within_act fun _ => Prog.within_ret ..
    · exact Prog.within_ret ..
  · exact (validatePath_within euid path).mono (by omega)
  · exact Prog.within_ret ..

/-! ## The result -/

/-- An accepted path is safe all along and above, and its leaf as written is a private directory
unless slashes hide that it is a link; every check is bounded; a directory just made stays unless it
is refused and its removal goes through. -/
theorem store_path_trust (host : Host ι) (fs : FileTree ι) (path : Path)
    (faults : Nat → DirFault ι) :
    (((StorePaths.wolfPSAStoreCheckPath host.euid path).run (dirHandler host) faults fs).1 = .ok →
      ReachedSafely host fs path ∧ (LeafPrivate host fs path ↔ ¬ SlashedLink host fs path)) ∧
    Prog.calls (dirHandler host) faults (StorePaths.wolfPSAStoreCheckPath host.euid path) fs ≤
      checkPathCalls ∧
    Prog.calls (dirHandler host) faults (StorePaths.wolfPSAStoreEnsureDir host.euid path) fs ≤
      2 * checkPathCalls + 2 ∧
    (Creates host fs faults path →
      (((StorePaths.wolfPSAStoreEnsureDir host.euid path).run (dirHandler host) faults fs).2.entry ≠
          fs.entry ↔
        verdict host fs faults path ≠ .rejected ∨ removalFails host fs faults path)) ∧
    (¬ Creates host fs faults path →
      ((StorePaths.wolfPSAStoreEnsureDir host.euid path).run (dirHandler host) faults fs).2 = fs) := by
  have bounded := (checkPath_within (ι := ι) host.euid path).calls_le (dirHandler host) faults fs
  have bounded' := (ensureDir_within (ι := ι) host.euid path).calls_le (dirHandler host) faults fs
  refine ⟨fun ok => ?_, bounded, bounded', ensureDir_created, ensureDir_untouched⟩
  obtain ⟨leaf, accepted⟩ := ((checkPath_looks path).run faults).2 ok
  exact ⟨accepted.reachedSafely, accepted.leafPrivate_iff⟩

/-- A root with the directory `keys` of user 1000 and a link to it; inode 3 is free. -/
def linkedKeys : FileTree (Fin 4) where
  inode
    | 0 => some ⟨.dir, 0, 0o755⟩
    | 1 => some ⟨.dir, 1000, 0o700⟩
    | 2 => some ⟨.link "keys".toList, 0, 0o777⟩
    | 3 => none
  entry i name :=
    if i = 0 ∧ name = "keys".toList then some 1
    else if i = 0 ∧ name = "link".toList then some 2
    else none
  names _ := ["keys".toList, "link".toList]
  parent _ := 0
  root := 0
  root_dir := rfl
  parent_root := rfl
  parent_dir _ := rfl
  rooted _ := ⟨1, rfl⟩
  entry_dir {i j name} found := by
    split at found
    · simp_all
      decide
    · split at found <;> simp_all
      decide
  entry_named {i j name} found := by
    split at found
    · simp_all
    · split at found <;> simp_all
  entry_live {i j name} found := by
    split at found
    · cases found
      decide
    · split at found <;> cases found
      decide
  entry_parent {i j name} found _ := by
    split at found
    · simp_all
    · split at found <;> simp_all

def ownHost : Host (Fin 4) := ⟨1000, 0, 0o022, 40⟩

def noDirFaults : Nat → DirFault (Fin 4) := fun _ => ⟨false, 3⟩

theorem store_path_trust_keys : ReachedSafely ownHost linkedKeys "/keys".toList ∧
    LeafPrivate ownHost linkedKeys "/keys".toList := by
  have trust := (store_path_trust ownHost linkedKeys "/keys".toList noDirFaults).1 (by decide)
  exact ⟨trust.1, trust.2.mpr fun slashed => by cases slashed.1⟩

/-- The name of a link is refused, but with a slash behind it the check looks past the link. -/
theorem slashed_link_accepted :
    ((StorePaths.wolfPSAStoreCheckPath 1000 "/link".toList).run (dirHandler ownHost) noDirFaults
      linkedKeys).1 = .rejected ∧
    ((StorePaths.wolfPSAStoreCheckPath 1000 "/link/".toList).run (dirHandler ownHost) noDirFaults
      linkedKeys).1 = .ok ∧
    ¬ LeafPrivate ownHost linkedKeys "/link/".toList := by
  refine ⟨by decide, by decide, ?_⟩
  rintro ⟨i, named, own⟩
  have walked : linkedKeys.walk false 0 (linkedKeys.start 0 "/link/".toList)
      (components "/link/".toList) = some 2 := by decide
  rw [named.unique (FileTree.walk_reaches walked)] at own
  exact absurd own.isDir (by decide)

end WolfPSA.Guarantees
