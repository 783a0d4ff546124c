import SupportAgent.Path

/-!
# The file system

A file system maps canonical paths to nodes: directories (with their entries in the order
`readdir` lists them), regular files and symbolic links. A system call resolves its path argument
as the kernel does (`path_resolution(7)`): the fields are taken one at a time from the directory
reached so far, `..` goes to the parent of that directory (after any link, unlike
`path.resolve`), and a symbolic link met on the way is replaced by its target, at most
`SYMLOOP_MAX` times in one call. Nothing forces the map to be consistent (an entry without a
node, a node under a file): such maps stand for what a concurrent writer can leave between two
calls.
-/

namespace SupportAgent

/-- What a node is. -/
inductive NodeKind
  | dir (entries : List String)
  | file (content : String)
  | symlink (target : String)
  deriving DecidableEq, Repr

/-- A node and the metadata `stat` reports of it. -/
structure Node where
  kind : NodeKind
  size : Nat
  mtimeMs : Int
  deriving DecidableEq, Repr

/-- The error codes of the calls made here. -/
inductive Errno
  | ENOENT
  | ENOTDIR
  | ELOOP
  | EISDIR
  | EEXIST
  deriving DecidableEq, Repr

/-- The error's `code`. -/
def Errno.code : Errno → String
  | .ENOENT => "ENOENT"
  | .ENOTDIR => "ENOTDIR"
  | .ELOOP => "ELOOP"
  | .EISDIR => "EISDIR"
  | .EEXIST => "EEXIST"

/-- The error's description. -/
def Errno.text : Errno → String
  | .ENOENT => "no such file or directory"
  | .ENOTDIR => "not a directory"
  | .ELOOP => "too many symbolic links encountered"
  | .EISDIR => "illegal operation on a directory"
  | .EEXIST => "file already exists"

/-- The message Node gives a failed call `syscall` on `path`. -/
def Errno.message (e : Errno) (syscall path : String) : String :=
  e.code ++ ": " ++ e.text ++ ", " ++ syscall ++ " '" ++ path ++ "'"

/-- The message Node gives a failed `read` of an open file, which names no path. -/
def Errno.readMessage (e : Errno) : String := e.code ++ ": " ++ e.text ++ ", read"

/-- The links one call follows at most (Linux's `MAXSYMLINKS`). -/
def SYMLOOP_MAX : Nat := 40

/-- A file system: the node at each canonical path. -/
structure FileSystem where
  node : AbsPath → Option Node

namespace FileSystem

/-- The file system holding the listed nodes and no other. -/
def ofList (l : List (AbsPath × Node)) : FileSystem := ⟨fun p => (l.lookup p)⟩

/-- The kind of the node at `p`. -/
def kind (fs : FileSystem) (p : AbsPath) : Option NodeKind := (fs.node p).map Node.kind

/-- `p` is a directory. -/
def isDir (fs : FileSystem) (p : AbsPath) : Bool :=
  match fs.kind p with
  | some (.dir _) => true
  | _ => false

/-- `p` is a regular file. -/
def isFile (fs : FileSystem) (p : AbsPath) : Bool :=
  match fs.kind p with
  | some (.file _) => true
  | _ => false

/-! ## Resolution -/

section Walk

variable (fs : FileSystem)

/-- One pass of resolution over the fields `ps` from the directory `cur`. A symbolic link met on
the way is handed to `k`, with the directory its target is read from and the fields still to go
after it. -/
def walkWith (k : AbsPath → RawPath → Except Errno AbsPath) :
    AbsPath → RawPath → Except Errno AbsPath
  | cur, [] => .ok cur
  | cur, f :: ps =>
    if !fs.isDir cur then .error .ENOTDIR
    else if f = "" ∨ f = "." then walkWith k cur ps
    else if f = ".." then walkWith k cur.dropLast ps
    else match fs.kind (cur ++ [f]) with
      | none => .error .ENOENT
      | some (.symlink t) => k (Path.start cur (Path.fields t)) (Path.fields t ++ ps)
      | some _ => walkWith k (cur ++ [f]) ps

/-- Resolution that may still follow `n` links. -/
def walk : Nat → AbsPath → RawPath → Except Errno AbsPath
  | 0 => fs.walkWith fun _ _ => .error .ELOOP
  | n + 1 => fs.walkWith (walk n)

/-- The object the path with fields `p` names, every link followed (`realpath`, `stat`,
`chdir`). -/
def locate (cwd : AbsPath) (p : RawPath) : Except Errno AbsPath :=
  fs.walk SYMLOOP_MAX (Path.start cwd p) p

/-- The object `lstat(p)` reports: the one `locate` gives, except that a link named by the last
field is reported itself. -/
def locateNoFollow (cwd : AbsPath) (p : RawPath) : Except Errno AbsPath :=
  match p.getLast? with
  | some f =>
    if f = "" ∨ f = "." ∨ f = ".." then fs.locate cwd p
    else match fs.walk SYMLOOP_MAX (Path.start cwd p) p.dropLast with
      | .ok d =>
        if !fs.isDir d then .error .ENOTDIR
        else if (fs.node (d ++ [f])).isSome then .ok (d ++ [f]) else .error .ENOENT
      | .error e => .error e
  | none => fs.locate cwd p

/-- Where `open(…, O_CREAT)` creates the file named by fields `p` read from `d0` that do not
resolve: the last field, a name missing from the directory the fields before it resolve to; when
that name is a symbolic link, where its target is created, by the same rule. -/
def createTarget : Nat → AbsPath → RawPath → Except Errno AbsPath
  | 0, _, _ => .error .ELOOP
  | n + 1, d0, p =>
    match p.getLast? with
    | none => .error .ENOENT
    | some f =>
      if f = "" ∨ f = "." ∨ f = ".." then .error .EISDIR
      else match fs.walk SYMLOOP_MAX d0 p.dropLast with
        | .error e => .error e
        | .ok d =>
          if !fs.isDir d then .error .ENOTDIR
          else match fs.kind (d ++ [f]) with
            | none => .ok (d ++ [f])
            | some (.symlink t) => createTarget n (Path.start d (Path.fields t)) (Path.fields t)
            | some _ => .error .EEXIST

/-- The file `writeFile(p, …)` writes: the file `p` resolves to, or the one it creates. -/
def writeTarget (cwd : AbsPath) (p : RawPath) : Except Errno AbsPath :=
  match fs.locate cwd p with
  | .ok r => if fs.isFile r then .ok r else .error .EISDIR
  | .error _ => fs.createTarget SYMLOOP_MAX (Path.start cwd p) p

/-- An entry as `readdir(…, { withFileTypes: true })` gives it: its name, and whether the entry
itself (a link not followed) is a directory. -/
structure Dirent where
  name : String
  isDirectory : Bool
  deriving DecidableEq, Repr

/-- `readdir(p, { withFileTypes: true })`: the directory listed and its entries. -/
def readdir (cwd : AbsPath) (p : RawPath) : Except Errno (AbsPath × List Dirent) :=
  match fs.locate cwd p with
  | .ok d =>
    match fs.kind d with
    | some (.dir es) => .ok (d, es.map fun e => ⟨e, fs.isDir (d ++ [e])⟩)
    | _ => .error .ENOTDIR
  | .error e => .error e

/-- `stat(p)`: the object `p` resolves to, and its node. -/
def stat (cwd : AbsPath) (p : RawPath) : Except Errno (AbsPath × Node) :=
  match fs.locate cwd p with
  | .ok r =>
    match fs.node r with
    | some n => .ok (r, n)
    | none => .error .ENOENT
  | .error e => .error e

/-- `lstat(p)`: the node of the object `locateNoFollow` gives. -/
def lstat (cwd : AbsPath) (p : RawPath) : Except Errno Node :=
  match fs.locateNoFollow cwd p with
  | .ok r =>
    match fs.node r with
    | some n => .ok n
    | none => .error .ENOENT
  | .error e => .error e

/-- `readFile(p, 'utf-8')`: `open` reaches the object `p` resolves to, and the first `read` then
gives a file's content, or fails on a directory. -/
def readFile (cwd : AbsPath) (p : RawPath) : Except Errno (AbsPath × Except Errno String) :=
  match fs.locate cwd p with
  | .ok r =>
    match fs.kind r with
    | some (.file content) => .ok (r, .ok content)
    | some _ => .ok (r, .error .EISDIR)
    | none => .error .ENOENT
  | .error e => .error e

end Walk

/-! ## Updates -/

/-- The file system with the node `n` at `d ++ [name]`, and `name` added to the entries of the
directory `d` when it is new there. -/
def insert (fs : FileSystem) (d : AbsPath) (name : String) (n : Node) : FileSystem :=
  ⟨fun q =>
    if q = d ++ [name] then some n
    else if q = d then
      (fs.node d).map fun m => match m.kind with
        | .dir es => if name ∈ es then m else { m with kind := .dir (es ++ [name]) }
        | _ => m
    else fs.node q⟩

/-- The file system with the node `n` at `p`, added to the entries of its parent. -/
def put (fs : FileSystem) (p : AbsPath) (n : Node) : FileSystem :=
  match p.getLast? with
  | some name => fs.insert p.dropLast name n
  | none => ⟨fun q => if q = [] then some n else fs.node q⟩

/-- A new empty directory, made at time `now`. -/
def dirNode (now : Int) : Node := ⟨.dir [], 0, now⟩

/-- The directories `mkdir(…, { recursive: true })` creates along the fields `p` read from `cur`,
and the file system after them: a missing name is created, an existing link is followed to the
directory it names. A failure stops the walk and keeps what was created before it. -/
def mkdirWalk (now : Int) : FileSystem → AbsPath → RawPath →
    FileSystem × List AbsPath × Option Errno
  | fs, _, [] => (fs, [], none)
  | fs, cur, f :: ps =>
    if !fs.isDir cur then (fs, [], some .ENOTDIR)
    else if f = "" ∨ f = "." then mkdirWalk now fs cur ps
    else if f = ".." then mkdirWalk now fs cur.dropLast ps
    else match fs.kind (cur ++ [f]) with
      | none =>
        let (fs', ds, err) := mkdirWalk now (fs.insert cur f (dirNode now)) (cur ++ [f]) ps
        (fs', (cur ++ [f]) :: ds, err)
      | some (.symlink t) =>
        match fs.walk SYMLOOP_MAX (Path.start cur (Path.fields t)) (Path.fields t) with
        | .ok r => if fs.isDir r then mkdirWalk now fs r ps else (fs, [], some .ENOTDIR)
        | .error e => (fs, [], some e)
      | some (.dir _) => mkdirWalk now fs (cur ++ [f]) ps
      | some (.file _) => (fs, [], some .ENOTDIR)

/-- `mkdir(p, { recursive: true })` (`MKDirpSync`): nothing to do when `p` already names a
directory; otherwise the file system after, the directories created and the error it stopped
at, if any. -/
def mkdirRecursive (fs : FileSystem) (cwd : AbsPath) (now : Int) (p : RawPath) :
    FileSystem × List AbsPath × Option Errno :=
  match fs.locate cwd p with
  | .ok r => if fs.isDir r then (fs, [], none) else (fs, [], some .EEXIST)
  | .error _ => mkdirWalk now fs (Path.start cwd p) p

end FileSystem

end SupportAgent
