import WolfPSA.Lib.FileTree
import WolfPSA.Source.StorePosix

/-!
# The privacy check of the store directory

The part of `src/psa_store_posix.c` that decides whether a directory may hold the store, as programs
over the directory calls it makes. A directory tree answers the calls; a fault makes a call fail.
A descriptor is the inode it was opened on.
-/

namespace WolfPSA.Source.StorePaths
open Lib

/-! ## Directory calls -/

/-- `struct stat`; `ident` stands for device and inode number. -/
structure Stat (ι : Type) where
  ident : ι
  node : Inode

inductive DirAct (ι : Type) where
  | lstat (path : Path)
  | openDir (path : Path)
  | openAt (fd : ι) (name : Path)
  | fstat (fd : ι)
  | close (fd : ι)
  | mkdir (path : Path)
  | rmdir (path : Path)

abbrev DirRes (ι : Type) : DirAct ι → Type
  | .lstat _ | .fstat _ => Option (Stat ι)
  | .openDir _ | .openAt .. => Option ι
  | .close _ => Unit
  | .mkdir _ => MkdirResult
  | .rmdir _ => Bool

abbrev DirProg (ι : Type) := Prog (DirAct ι) (DirRes ι)

section Calls

variable {ι : Type}

def lstat (path : Path) : DirProg ι (Option (Stat ι)) := .perform (DirAct.lstat path)
def openDir (path : Path) : DirProg ι (Option ι) := .perform (DirAct.openDir path)
def openAt (fd : ι) (name : Path) : DirProg ι (Option ι) := .perform (DirAct.openAt fd name)
def fstat (fd : ι) : DirProg ι (Option (Stat ι)) := .perform (DirAct.fstat fd)
def close (fd : ι) : DirProg ι Unit := .perform (DirAct.close fd)
def mkdir (path : Path) : DirProg ι MkdirResult := .perform (DirAct.mkdir path)
def rmdir (path : Path) : DirProg ι Bool := .perform (DirAct.rmdir path)

end Calls

/-! ## The check -/

/-- `WOLFPSA_STORE_MAX_COMPONENT`. -/
def storeMaxComponent : Nat := 256

/-- `WOLFPSA_STORE_MAX_DEPTH`. -/
def storeMaxDepth : Nat := 256

/-- `S_IWGRP | S_IWOTH`. -/
def groupOtherWrite : Nat := 0o022

/-- `S_ISVTX`. -/
def stickyBit : Nat := 0o1000

variable {ι : Type}

/-- `wolfPSA_StoreCheckLeaf`. -/
def wolfPSAStoreCheckLeaf (euid : Nat) (dirPath : Path) : DirProg ι PathCheck := do
  match ← lstat dirPath with
  | none => pure .unknown
  | some st =>
    if !st.node.isDir then pure .rejected
    else if st.node.isLink then pure .rejected
    else if (st.node.uid ≠ euid ∧ st.node.uid ≠ 0) ∨ st.node.mode &&& groupOtherWrite ≠ 0 then
      pure .rejected
    else pure .ok

/-- `wolfPSA_StoreCheckDirFd`. -/
def wolfPSAStoreCheckDirFd (euid : Nat) (fd : ι) : DirProg ι PathCheck := do
  match ← fstat fd with
  | none => pure .unknown
  | some st =>
    if !st.node.isDir then pure .rejected
    else if st.node.uid ≠ euid ∧ st.node.uid ≠ 0 then pure .rejected
    else
      let sticky := decide (st.node.mode &&& stickyBit ≠ 0)
      if st.node.mode &&& groupOtherWrite ≠ 0 ∧ !sticky then pure .rejected
      else pure .ok

/-- The loop of `wolfPSA_StoreCheckLexical` from the descriptor `fd` and the rest `p` of the path. -/
def checkLexicalFrom (euid : Nat) : (depth : Nat) → ι → Path → DirProg ι (Except PathCheck ι)
  | 0, fd, _ => do
    close fd
    pure (.error .unknown)
  | depth + 1, fd, p =>
    let p := p.dropWhile (· == '/')
    if p = [] then pure (.ok fd)
    else
      let comp := p.takeWhile (· != '/')
      if comp.length ≥ storeMaxComponent then do
        close fd
        pure (.error .unknown)
      else do
        -- `.` and `..` are resolved by the kernel, so the directory holding them is not looked at
        let ret ← (if isDot comp then pure .ok else wolfPSAStoreCheckDirFd euid fd)
        if ret ≠ .ok then
          close fd
          pure (.error ret)
        else
          let next ← openAt fd comp
          close fd
          match next with
          | none => pure (.error .unknown)
          | some next => checkLexicalFrom euid depth next (p.drop comp.length)

/-- `wolfPSA_StoreCheckLexical`; the answer carries the open leaf. -/
def wolfPSAStoreCheckLexical (euid : Nat) (dirPath : Path) : DirProg ι (Except PathCheck ι) := do
  match ← openDir (if isAbsolute dirPath then ['/'] else ['.']) with
  | none => pure (.error .unknown)
  | some fd => checkLexicalFrom euid storeMaxDepth fd dirPath

/-- The loop of `wolfPSA_StoreCheckAncestors` from the descriptor `fd`, whose status is `st`. -/
def checkAncestorsFrom [DecidableEq ι] (euid : Nat) : (depth : Nat) → ι → Stat ι → DirProg ι PathCheck
  | 0, fd, _ => do
    close fd
    pure .unknown
  | depth + 1, fd, st => do
    let parent ← openAt fd ['.', '.']
    close fd
    match parent with
    | none => pure .unknown
    | some parent =>
      match ← fstat parent with
      | none =>
        close parent
        pure .unknown
      | some parentSt =>
        -- the root is its own parent
        if parentSt.ident = st.ident then
          close parent
          pure .ok
        else
          let ret ← wolfPSAStoreCheckDirFd euid parent
          if ret ≠ .ok then
            close parent
            pure ret
          else checkAncestorsFrom euid depth parent parentSt

/-- `wolfPSA_StoreCheckAncestors`. -/
def wolfPSAStoreCheckAncestors [DecidableEq ι] (euid : Nat) (fd : ι) : DirProg ι PathCheck := do
  match ← fstat fd with
  | none =>
    close fd
    pure .unknown
  | some st => checkAncestorsFrom euid storeMaxDepth fd st

/-- `wolfPSA_StoreCheckPath`. -/
def wolfPSAStoreCheckPath [DecidableEq ι] (euid : Nat) (dirPath : Path) : DirProg ι PathCheck := do
  let ret ← wolfPSAStoreCheckLeaf euid dirPath
  if ret ≠ .ok then pure ret
  else
    match ← wolfPSAStoreCheckLexical euid dirPath with
    | .error ret => pure ret
    | .ok leafFd => wolfPSAStoreCheckAncestors euid leafFd

/-- `wolfPSA_StoreValidatePath`. -/
def wolfPSAStoreValidatePath [DecidableEq ι] (euid : Nat) (dirPath : Path) : DirProg ι Bool := do
  let ret ← wolfPSAStoreCheckPath euid dirPath
  pure (ret == .ok)

/-- `wolfPSA_StoreEnsureDir`. -/
def wolfPSAStoreEnsureDir [DecidableEq ι] (euid : Nat) (dirPath : Path) : DirProg ι Bool :=
  if dirPath = [] then pure false
  else do
    if ← wolfPSAStoreValidatePath euid dirPath then pure true
    else
      match ← mkdir dirPath with
      | .created =>
        let ret ← wolfPSAStoreCheckPath euid dirPath
        if ret = .rejected then
          let _ ← rmdir dirPath
          pure (ret == .ok)
        else pure (ret == .ok)
      | .exists => wolfPSAStoreValidatePath euid dirPath
      | .failed => pure false

/-! ## The tree that answers -/

/-- What the calling process brings: its effective user, its working directory, its file mode mask
and the number of links the kernel follows. -/
structure Host (ι : Type) where
  euid : Nat
  cwd : ι
  umask : Nat
  links : Nat

/-- A call fails of itself; `fresh` is the inode that `mkdir` takes. -/
structure DirFault (ι : Type) where
  fails : Bool
  fresh : ι

/-- `openat(fd, name, WOLFPSA_O_DIRWALK)`. -/
def openWalk (host : Host ι) (fs : FileTree ι) (fd : ι) (name : Path) : Option ι :=
  (fs.resolve host.links fd true name).filter fs.isDir

def statOf (fs : FileTree ι) (i : ι) : Option (Stat ι) := (fs.inode i).map fun node => ⟨i, node⟩

/-- The directory in which `mkdir` and `rmdir` act, and the name there. Neither follows a link in the
last place. -/
def lastEntry (host : Host ι) (fs : FileTree ι) (path : Path) : Option (ι × Path) :=
  match (components path).getLast? with
  | none => none
  | some name =>
    if isDot name then none
    else
      match fs.walk true host.links (fs.start host.cwd path) (components path).dropLast with
      | none => none
      | some dir => some (dir, name)

/-- `mkdir(path, 0700)`. -/
def makeDir [DecidableEq ι] (host : Host ι) (fs : FileTree ι) (fresh : ι) (path : Path) :
    MkdirResult × FileTree ι :=
  match lastEntry host fs path with
  | none => (if (fs.resolve host.links host.cwd true path).isSome then .exists else .failed, fs)
  | some (dir, name) =>
    if (fs.entry dir name).isSome then (.exists, fs)
    else if room : fs.isDir dir ∧ fs.inode fresh = none then
      (.created, fs.addDir dir fresh name ⟨.dir, host.euid, 0o700 &&& (0o777 ^^^ host.umask)⟩ rfl
        room.1 room.2)
    else (.failed, fs)

/-- `rmdir(path)`, of an empty directory. -/
def removeDir [DecidableEq ι] (host : Host ι) (fs : FileTree ι) (path : Path) : Bool × FileTree ι :=
  match lastEntry host fs path with
  | none => (false, fs)
  | some (dir, name) =>
    match fs.entry dir name with
    | none => (false, fs)
    | some i =>
      if fs.isDir i && (fs.names i).all (fun other => (fs.entry i other).isNone) then
        (true, fs.removeName dir name)
      else (false, fs)

def dirHandler [DecidableEq ι] (host : Host ι) :
    Prog.Handler (DirFault ι) (FileTree ι) (DirAct ι) (DirRes ι) := fun fault a fs =>
  match a with
  | .lstat path =>
    (if fault.fails then none else (fs.resolve host.links host.cwd false path).bind (statOf fs), fs)
  | .openDir path => (if fault.fails then none else openWalk host fs host.cwd path, fs)
  | .openAt fd name => (if fault.fails then none else openWalk host fs fd name, fs)
  | .fstat fd => (if fault.fails then none else statOf fs fd, fs)
  | .close _ => ((), fs)
  | .mkdir path => if fault.fails then (.failed, fs) else makeDir host fs fault.fresh path
  | .rmdir path => if fault.fails then (false, fs) else removeDir host fs path

/-! ## The store's own view -/

/-- The calls of the store beside the directory calls. -/
inductive PathAct (ι : Type) where
  | dir (a : DirAct ι)
  | sys (a : SysAct)

abbrev PathRes (ι : Type) : PathAct ι → Type
  | .dir a => DirRes ι a
  | .sys a => SysRes a

/-- A program over the directory calls among the others. -/
def amongOthers {α : Type} (p : DirProg ι α) : Prog (PathAct ι) (PathRes ι) α :=
  p.expand fun a => .perform (PathAct.dir a)

/-- The store's calls with the check of its directory spelled out. -/
def spelled [DecidableEq ι] (euid : Nat) : (a : SysAct) → Prog (PathAct ι) (PathRes ι) (SysRes a)
  | .fs (.checkPath path) => amongOthers (wolfPSAStoreCheckPath euid path)
  | .fs (.mkdir path) => amongOthers (mkdir path)
  | .fs (.rmdir path) => amongOthers (rmdir path >>= fun _ => pure ())
  | a => .perform (PathAct.sys a)

private theorem bind_ret_self {A : Type} {R : A → Type} {α : Type} (p : Prog A R α) :
    (p >>= fun value => .ret value) = p := by
  induction p with
  | ret value => rfl
  | act a next ih => exact congrArg (Prog.act a) (funext ih)

/-- The walk in place of the verdict left to the world: the store makes its directory as here. -/
theorem ensureDir_spelled [DecidableEq ι] (euid : Nat) (path : Path) (given : path ≠ []) :
    (Source.wolfPSAStoreEnsureDir path).expand (spelled (ι := ι) euid) =
      amongOthers (wolfPSAStoreEnsureDir euid path) := by
  have check : (Source.wolfPSAStoreCheckPath path).expand (spelled (ι := ι) euid) =
      amongOthers (wolfPSAStoreCheckPath euid path) := bind_ret_self _
  have again : (Source.wolfPSAStoreCheckPath path >>= fun again =>
        pure (decide (again = .ok))).expand (spelled (ι := ι) euid) =
      amongOthers (wolfPSAStoreValidatePath euid path) := by
    rw [amongOthers, wolfPSAStoreValidatePath, Prog.expand_bind, Prog.expand_bind, check, amongOthers]
    refine congrArg (Prog.expand _ (wolfPSAStoreCheckPath euid path) >>= ·) (funext fun ret => ?_)
    cases ret <;> rfl
  unfold Source.wolfPSAStoreEnsureDir wolfPSAStoreEnsureDir
  rw [if_neg given, wolfPSAStoreValidatePath, Prog.bind_assoc, amongOthers, Prog.expand_bind,
    Prog.expand_bind, check, amongOthers]
  refine congrArg (Prog.expand _ (wolfPSAStoreCheckPath euid path) >>= ·) (funext fun ret => ?_)
  by_cases ok : ret = .ok
  · subst ok
    rfl
  · have bad : (ret == PathCheck.ok) = false := by simpa using ok
    rw [if_neg ok, bad]
    refine congrArg (Prog.act _) (funext fun answer => ?_)
    cases answer with
    | created =>
      show (Source.wolfPSAStoreCheckPath path >>= _).expand _ =
        amongOthers (wolfPSAStoreCheckPath euid path >>= _)
      rw [amongOthers, Prog.expand_bind, Prog.expand_bind, check, amongOthers]
      refine congrArg (Prog.expand _ (wolfPSAStoreCheckPath euid path) >>= ·) (funext fun ret => ?_)
      cases ret <;> rfl
    | «exists» => exact again
    | failed => rfl
end WolfPSA.Source.StorePaths
