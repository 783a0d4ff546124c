import SupportAgent.Proofs.Executor
import SupportAgent.Proofs.FileSystem
import SupportAgent.Proofs.Path

/-!
# What the path check protects

`validateFilePath` checks the canonical form of a path, and the handlers then call the host on the
path as written, which the kernel resolves again. When the path resolves, the object a call
reaches is the object checked. When it names a new file, by a last name missing from a directory
the fields before it resolve to, none of them `..`, the check joins that name to the `realpath`
of the lexical parent, which is that directory: the file `open` creates (`resolvedPath_newFile`).
The check compares the object with the blocked directories as strings, so it keeps the object out
of where they resolve only if each blocked directory that resolves resolves to a blocked
directory. Under that condition and an absolute home directory, no call reads, lists, creates,
writes or starts a shell in anything under a blocked directory
(`executeCommand_objects_unblocked`).

Without it, or when the path does not resolve, the check and the kernel part ways
(`path_check_escapes`). A read through a symbolic link `~/.ssh` reaches the key the link leads
to. A write of a path that does not resolve is checked on the parent `path.resolve` gives, which
drops a `..` before the kernel has followed the link in front of it, and is joined with the last
name, which the kernel follows when it is a dangling link; `mkdir` of a parent that does not
resolve follows the links in front of it.
-/

namespace SupportAgent

open FileSystem

/-! ## A new file

A write of a path that does not resolve is checked on the `realpath` of the parent `path.resolve`
gives, joined with the last name. Without `..`, the lexical parent names the fields the kernel
walks, less the `''` and `.` it steps over; read from the root or from a canonical working
directory, they reach the directory the kernel creates the file in. -/

theorem dropTrailingEmpty_append_name {f : String} (hf : f ≠ "") :
    ∀ q : RawPath, Path.dropTrailingEmpty (q ++ [f]) = q ++ [f]
  | [] => by simp [Path.dropTrailingEmpty, hf]
  | x :: q => by
    rw [List.cons_append, Path.dropTrailingEmpty, dropTrailingEmpty_append_name hf q]
    split
    · rename_i h; simp at h
    · rfl

namespace FileSystem

variable {fs : FileSystem}

theorem kind_of_isDir {p : AbsPath} (h : fs.isDir p = true) : ∃ es, fs.kind p = some (.dir es) := by
  unfold isDir at h
  split at h
  · exact ⟨_, ‹_›⟩
  · cases h

/-- A field `''` or `.` can be dropped from a resolution that succeeds: it stays in a directory. -/
theorem walkWith_erase {k : AbsPath → RawPath → Except Errno AbsPath}
    (hk : ∀ {d xs g ys r}, (g = "" ∨ g = ".") → k d (xs ++ g :: ys) = .ok r →
      k d (xs ++ ys) = .ok r)
    {f : String} (hf : f = "" ∨ f = ".") (ys : RawPath) :
    ∀ (xs : RawPath) {cur r}, fs.walkWith k cur (xs ++ f :: ys) = .ok r →
      fs.walkWith k cur (xs ++ ys) = .ok r
  | [], cur, r, h => by
    have hd := walkWith_cons_isDir h
    simpa only [List.nil_append, walkWith, hd, hf, Bool.not_true, if_false, if_true] using h
  | x :: xs, cur, r, h => by
    rw [List.cons_append] at h ⊢
    have hd := walkWith_cons_isDir h
    by_cases h1 : x = "" ∨ x = "."
    · simp only [walkWith, hd, h1, Bool.not_true, if_false, if_true] at h ⊢
      exact walkWith_erase hk hf ys xs h
    by_cases h2 : x = ".."
    · simp only [walkWith, hd, h1, h2, Bool.not_true, if_false, if_true] at h ⊢
      exact walkWith_erase hk hf ys xs h
    simp only [walkWith, hd, h1, h2, Bool.not_true, if_false] at h ⊢
    cases hkind : fs.kind (cur ++ [x]) with
    | none => simp [hkind] at h
    | some kd =>
      cases kd with
      | symlink t =>
        simp only [hkind] at h ⊢
        rw [← List.append_assoc] at h ⊢
        exact hk hf h
      | dir es => simp only [hkind] at h ⊢; exact walkWith_erase hk hf ys xs h
      | file c => simp only [hkind] at h ⊢; exact walkWith_erase hk hf ys xs h

theorem walk_erase : ∀ (n : Nat) {d xs f ys r}, (f = "" ∨ f = ".") →
    fs.walk n d (xs ++ f :: ys) = .ok r → fs.walk n d (xs ++ ys) = .ok r
  | 0 => fun hf h => walkWith_erase (fun _ h => by cases h) hf _ _ h
  | n + 1 => fun hf h => walkWith_erase (walk_erase n) hf _ _ h

/-- A resolution that succeeds succeeds without its fields `''` and `.`, at the same object. -/
theorem walk_filter (n : Nat) {d r : AbsPath} :
    ∀ (q pre : RawPath), fs.walk n d (pre ++ q) = .ok r →
      fs.walk n d (pre ++ q.filter fun f => !(f == "" || f == ".")) = .ok r
  | [], pre, h => by simpa using h
  | f :: q, pre, h => by
    by_cases hf : f = "" ∨ f = "."
    · have h' := walk_filter n q pre (walk_erase n hf h)
      rcases hf with rfl | rfl <;> simpa using h'
    · have h' := walk_filter n q (pre ++ [f]) (by simpa using h)
      push_neg at hf
      simpa [hf.1, hf.2] using h'

/-- A directory reached by names, every prefix of it a directory, as `getcwd` gives it. -/
def Canonical (fs : FileSystem) (d : AbsPath) : Prop :=
  (∀ n ∈ d, PlainName n) ∧ ∀ i ≤ d.length, fs.isDir (d.take i) = true

/-- Resolving the names of a canonical directory passes no link and arrives at it. -/
theorem walkWith_canonical {k : AbsPath → RawPath → Except Errno AbsPath} (ys : RawPath) :
    ∀ (d cur : AbsPath), (∀ n ∈ d, PlainName n) →
      (∀ i ≤ d.length, fs.isDir (cur ++ d.take i) = true) →
      fs.walkWith k cur (d ++ ys) = fs.walkWith k (cur ++ d) ys
  | [], cur, _, _ => by simp
  | a :: d, cur, hp, hdir => by
    have h0 : fs.isDir cur = true := by simpa using hdir 0 (Nat.zero_le _)
    obtain ⟨es, hes⟩ := kind_of_isDir (show fs.isDir (cur ++ [a]) = true by
      simpa using hdir 1 (by simp))
    obtain ⟨-, ha1, ha2, ha3⟩ := hp a (.head _)
    have ih := walkWith_canonical (k := k) ys d (cur ++ [a]) (fun n hn => hp n (.tail _ hn))
      fun i hi => by simpa using hdir (i + 1) (by simpa using hi)
    have hstep : fs.walkWith k cur (a :: (d ++ ys)) = fs.walkWith k (cur ++ [a]) (d ++ ys) := by
      simp [walkWith, h0, ha1, ha2, ha3, hes]
    rw [List.cons_append, hstep, ih, List.append_assoc, List.singleton_append]

theorem walk_canonical {d : AbsPath} (hd : Canonical fs d) (n : Nat) (ys : RawPath) :
    fs.walk n [] (d ++ ys) = fs.walk n d ys := by
  cases n <;> exact walkWith_canonical ys d [] hd.1 (by simpa using hd.2)

theorem walkWith_plain {k : AbsPath → RawPath → Except Errno AbsPath}
    (hk : ∀ {d ps r}, (∀ n ∈ d, PlainName n) → (∀ f ∈ ps, '/' ∉ f.data) → k d ps = .ok r →
      ∀ n ∈ r, PlainName n) :
    ∀ (ps : RawPath) {cur r}, (∀ n ∈ cur, PlainName n) → (∀ f ∈ ps, '/' ∉ f.data) →
      fs.walkWith k cur ps = .ok r → ∀ n ∈ r, PlainName n
  | [], cur, r, hc, _, h => by cases h; exact hc
  | f :: ps, cur, r, hc, hps, h => by
    have hd := walkWith_cons_isDir h
    have hps' : ∀ g ∈ ps, '/' ∉ g.data := fun g hg => hps g (.tail _ hg)
    by_cases h1 : f = "" ∨ f = "."
    · simp only [walkWith, hd, h1, Bool.not_true, if_false, if_true] at h
      exact walkWith_plain hk ps hc hps' h
    by_cases h2 : f = ".."
    · simp only [walkWith, hd, h1, h2, Bool.not_true, if_false, if_true] at h
      exact walkWith_plain hk ps (fun n hn => hc n (List.dropLast_subset _ hn)) hps' h
    simp only [walkWith, hd, h1, h2, Bool.not_true, if_false] at h
    have hplain : ∀ n ∈ cur ++ [f], PlainName n := by
      intro n hn
      rcases List.mem_append.mp hn with hn | hn
      · exact hc n hn
      · obtain rfl := List.mem_singleton.mp hn
        exact ⟨hps _ (.head _), fun e => h1 (.inl e), fun e => h1 (.inr e), h2⟩
    cases hkind : fs.kind (cur ++ [f]) with
    | none => simp [hkind] at h
    | some kd =>
      cases kd with
      | symlink t =>
        simp only [hkind] at h
        refine hk (fun n hn => ?_) (fun g hg => ?_) h
        · unfold Path.start at hn
          split at hn
          · cases hn
          · exact hc n hn
        · rcases List.mem_append.mp hg with hg | hg
          · exact slash_not_mem_fields t g hg
          · exact hps' g hg
      | dir es => simp only [hkind] at h; exact walkWith_plain hk ps hplain hps' h
      | file c => simp only [hkind] at h; exact walkWith_plain hk ps hplain hps' h

theorem walk_plain : ∀ (n : Nat) {d ps r}, (∀ m ∈ d, PlainName m) → (∀ f ∈ ps, '/' ∉ f.data) →
    fs.walk n d ps = .ok r → ∀ m ∈ r, PlainName m
  | 0 => walkWith_plain (fun _ _ h => by cases h) _
  | n + 1 => walkWith_plain (walk_plain n) _

theorem walk_nil (n : Nat) (cur : AbsPath) : fs.walk n cur [] = .ok cur := by
  cases n <;> rfl

theorem walk_dot_cons {n : Nat} {cur : AbsPath} (hd : fs.isDir cur = true) {f : String}
    (hf : f = "" ∨ f = ".") (ps : RawPath) : fs.walk n cur (f :: ps) = fs.walk n cur ps := by
  cases n <;> simp [walk, walkWith, hd, hf]

/-- The directory part of a path ending in a name resolves to a directory when the fields before
the name do. -/
theorem locate_dirname_append {cwd : AbsPath} {q : RawPath} {f : String} (hf : f ≠ "")
    {d : AbsPath} (h : fs.walk SYMLOOP_MAX (Path.start cwd (q ++ [f])) q = .ok d)
    (hd : fs.isDir d = true) :
    ∃ m, fs.locate cwd (Path.dirname (q ++ [f])) = .ok m ∧ fs.isDir m = true := by
  unfold Path.dirname locate
  rw [dropTrailingEmpty_append_name hf, List.dropLast_concat]
  split
  · -- a name alone, read from the working directory
    simp only [List.nil_append] at h hd ⊢
    rw [walk_nil] at h
    cases h
    have hs : Path.start cwd [f] = cwd := by simp [Path.start, Path.isAbsolute]
    rw [hs] at hd
    exact ⟨cwd, by simp [Path.start, Path.isAbsolute, walk_dot_cons hd, walk_nil], hd⟩
  · -- a name under the root
    have hr : fs.isDir [] = true := walk_cons_isDir h
    exact ⟨[], by simp [Path.start, Path.isAbsolute, walk_dot_cons hr, walk_nil], hr⟩
  · have hr : fs.isDir [] = true := walk_cons_isDir h
    exact ⟨[], by simp [Path.start, Path.isAbsolute, walk_dot_cons hr, walk_nil], hr⟩
  · rename_i h0 h1 _
    rw [Path.start, Path.isAbsolute_append h0 h1 _ (List.cons_ne_nil _ _)] at h
    exact ⟨d, h, hd⟩

end FileSystem

open FileSystem

/-- Without `..`, `path.resolve` keeps the names of the fields, in order, after where it starts. -/
theorem foldl_pushField_filter (acc : AbsPath) :
    ∀ p : RawPath, ".." ∉ p →
      p.foldl Path.pushField acc = acc ++ p.filter fun f => !(f == "" || f == ".")
  | [], _ => by simp
  | f :: p, h => by
    have hf : f ≠ ".." := fun e => h (e ▸ .head _)
    rw [List.foldl_cons, foldl_pushField_filter _ p fun hm => h (.tail _ hm)]
    by_cases h1 : f = "" ∨ f = "."
    · rcases h1 with rfl | rfl <;> simp [Path.pushField]
    · push_neg at h1
      simp [Path.pushField, h1.1, h1.2, hf]

theorem locate_render {fs : FileSystem} {X : AbsPath} (hX : ∀ n ∈ X, '/' ∉ n.data)
    (hroot : fs.isDir [] = true) (cwd : AbsPath) :
    fs.locate cwd (Path.fields (Path.render X)) = fs.walk SYMLOOP_MAX [] X := by
  cases X with
  | nil =>
    rw [show Path.fields (Path.render []) = ["", ""] by decide]
    simp [locate, Path.start, Path.isAbsolute, walk, SYMLOOP_MAX, walkWith, hroot]
  | cons n ns =>
    rw [Path.render, if_neg (List.cons_ne_nil _ _), fields_renderNames _ hX]
    simp [locate, Path.start, Path.isAbsolute, walk, SYMLOOP_MAX, walkWith, hroot]

/-- The path of a write names a new file the path check sees where the kernel creates it: its
last field is a name missing from the directory the fields before it resolve to, none of them
`..`, read from the root or from a canonical working directory. -/
def NewFile (fs : FileSystem) (cwd : AbsPath) (path : String) : Prop :=
  ∃ q f d, Path.fields path = q ++ [f] ∧ PlainName f ∧ ".." ∉ q ∧
    (Path.isAbsolute (Path.fields path) = true ∨ Canonical fs cwd) ∧
    fs.walk SYMLOOP_MAX (Path.start cwd (Path.fields path)) q = .ok d ∧ fs.isDir d = true ∧
    fs.kind (d ++ [f]) = none

section NewFile

variable {fs : FileSystem} {cwd : AbsPath} {path : String}

theorem mkdirRecursive_newFile (hn : NewFile fs cwd path) (now : Int) :
    fs.mkdirRecursive cwd now (Path.dirname (Path.fields path)) = (fs, [], none) := by
  obtain ⟨q, f, d, hp, hf, -, -, hw, hd, -⟩ := hn
  rw [hp] at hw ⊢
  obtain ⟨m, hm, hdir⟩ := locate_dirname_append hf.2.1 hw hd
  exact mkdirRecursive_of_isDir hm hdir

/-- A path with a last name is read from the root, or from a canonical working directory when it
is relative: a canonical directory either way. -/
theorem canonical_start {q : RawPath} {f : String} {d : AbsPath}
    (hcwd : Path.isAbsolute (q ++ [f]) = true ∨ Canonical fs cwd)
    (hw : fs.walk SYMLOOP_MAX (Path.start cwd (q ++ [f])) q = .ok d) :
    Canonical fs (Path.start cwd (q ++ [f])) := by
  unfold Path.start at hw ⊢
  split
  · rename_i habs
    rw [if_pos habs] at hw
    cases q with
    | nil => simp [Path.isAbsolute] at habs
    | cons x q => exact ⟨by simp, fun i _ => by simpa using walk_cons_isDir hw⟩
  · exact hcwd.resolve_left ‹_›

/-- A new file is checked where the kernel creates it: the path check resolves it to the string
of the file `open` creates. -/
theorem resolvedPath_newFile (hn : NewFile fs cwd path) {e : Errno}
    (hl : fs.locate cwd (Path.fields path) = .error e) :
    ∃ t, resolvedPath fs cwd path = Path.render t ∧
      fs.writeTarget cwd (Path.fields path) = .ok t := by
  obtain ⟨q, f, d, hp, hf, hdd, hcwd, hw, hd, hk⟩ := hn
  obtain ⟨hs, h1, h2, h3⟩ := hf
  rw [hp] at hw hcwd
  have hq : ∀ g ∈ q, '/' ∉ g.data := fun g hg =>
    slash_not_mem_fields path g (hp ▸ List.mem_append_left _ hg)
  have hc := canonical_start hcwd hw
  -- the check's parent: the names `path.resolve` keeps, read from the root, reach the kernel's
  have hparent : fs.locate cwd
      (Path.fields (Path.render (Path.resolve cwd (q ++ [f])).dropLast)) = .ok d := by
    have hplain : ∀ n ∈ Path.start cwd (q ++ [f]) ++ q.filter fun f => !(f == "" || f == "."),
        '/' ∉ n.data := fun n hn => (List.mem_append.mp hn).elim (fun hn => (hc.1 n hn).1)
      fun hn => hq n (List.mem_of_mem_filter hn)
    rw [Path.resolve, foldl_pushField_filter _ _ (by simp [hdd, Ne.symm h3]), List.filter_append,
      ← List.append_assoc, show [f].filter (fun f => !(f == "" || f == ".")) = [f] by simp [h1, h2],
      List.dropLast_concat, locate_render hplain (by simpa using hc.2 0 (Nat.zero_le _)),
      walk_canonical hc]
    simpa using walk_filter SYMLOOP_MAX q [] hw
  refine ⟨d ++ [f], ?_, ?_⟩
  · simp only [resolvedPath, hl]
    rw [hp, hparent, show Path.basename (q ++ [f]) = f by
      simp [Path.basename, dropTrailingEmpty_append_name h1]]
    exact join_render_name (walk_plain SYMLOOP_MAX hc.1 hq hw) ⟨hs, h1, h2, h3⟩
  · unfold writeTarget
    rw [hl, hp, show SYMLOOP_MAX = 39 + 1 from rfl, createTarget]
    simp [h1, h2, h3, hw, hd, hk, List.dropLast_concat]

end NewFile

/-- A write the path check sees as the kernel does: of a path that resolves, or of a new file. -/
def CheckedWrite (fs : FileSystem) (cwd : AbsPath) (path : String) : Prop :=
  (∃ r, fs.locate cwd (Path.fields path) = .ok r) ∨ NewFile fs cwd path

section Checked

variable {fs : FileSystem} {cwd : AbsPath} {path : String}

theorem CheckedWrite.mkdirRecursive (hc : CheckedWrite fs cwd path) (now : Int) :
    fs.mkdirRecursive cwd now (Path.dirname (Path.fields path)) = (fs, [], none) := by
  rcases hc with ⟨r, hr⟩ | hn
  · exact mkdirRecursive_dirname (Path.fields_ne_nil path) hr
  · exact mkdirRecursive_newFile hn now

/-- The file a checked write writes is unblocked when the path check accepts its path. -/
theorem CheckedWrite.unblocked {home : String} (hhome : Path.isAbsolute (Path.fields home) = true)
    (hres : BlockedResolve fs cwd home) (hc : CheckedWrite fs cwd path)
    (hv : validateFilePath fs cwd home path = none) {t : AbsPath}
    (ht : fs.writeTarget cwd (Path.fields path) = .ok t) : Unblocked fs cwd home t := by
  rcases hl : fs.locate cwd (Path.fields path) with e | r
  · obtain ⟨r, hr⟩ | hn := hc
    · rw [hl] at hr; cases hr
    obtain ⟨t', hrp, ht'⟩ := resolvedPath_newFile hn hl
    obtain rfl : t = t' := by rw [ht'] at ht; cases ht; rfl
    exact unblocked_of_check hhome hres (by simpa [validateFilePath, hrp] using hv)
  · rw [writeTarget_of_locate hl ht]
    exact unblocked_of_validateFilePath hhome hres hv hl

end Checked

section

variable {K : Constants} {rt : Runtime} {env : Env} {fs : FileSystem} {payload : Payload}

theorem validateFilePath_of_resolveAndValidatePath {d : Option String} {path : String}
    (h : resolveAndValidatePath fs rt.cwd rt.homedir payload d = .ok path) :
    validateFilePath fs rt.cwd rt.homedir path = none := by
  unfold resolveAndValidatePath at h
  split at h
  · cases h
  · split_ifs at h
    split at h <;> cases h
    assumption

theorem parseString_of_resolveAndValidatePath {path : String}
    (h : resolveAndValidatePath fs rt.cwd rt.homedir payload none = .ok path) :
    parseString (payload "path") = some path := by
  unfold resolveAndValidatePath at h
  split at h
  · cases h
  · rename_i hfp
    split_ifs at h
    split at h <;> cases h
    simpa using hfp

theorem ok_of_mem_reached {α : Type} {res : Except Errno (AbsPath × α)} {o : AbsPath}
    (h : o ∈ (res.toOption.map Prod.fst).toList) : ∃ a, res = .ok (o, a) := by
  cases res with
  | error => simp [Except.toOption] at h
  | ok v => exact ⟨v.2, by simp_all [Except.toOption]⟩

theorem ok_of_mem_toOption {α : Type} {res : Except Errno α} {o : α}
    (h : o ∈ res.toOption.toList) : res = .ok o := by
  cases res <;> simp_all [Except.toOption]

theorem locate_of_spawnCwd {cwd : String} {r : AbsPath} (h : Host.spawnCwd rt fs cwd = .ok r) :
    fs.locate rt.cwd (Path.fields cwd) = .ok r := by
  unfold Host.spawnCwd at h
  split at h
  · split at h <;> cases h
    assumption
  · cases h

/-- Under an absolute home directory whose blocked directories resolve to blocked directories,
no call of `executeCommand` reaches a blocked object, unless it writes a path the check does not
see as the kernel does. -/
theorem objects_unblocked_of_commandCall {type : String}
    (hhome : Path.isAbsolute (Path.fields rt.homedir) = true)
    (hres : BlockedResolve fs rt.cwd rt.homedir)
    (hwrite : type = "file_write" → ∀ path, parseString (payload "path") = some path →
      CheckedWrite fs rt.cwd path)
    {e : Effect} (hc : CommandCall K rt env fs type payload e) :
    ∀ o ∈ e.objects, Unblocked fs rt.cwd rt.homedir o := by
  have hun : ∀ {path r}, validateFilePath fs rt.cwd rt.homedir path = none →
      fs.locate rt.cwd (Path.fields path) = .ok r → Unblocked fs rt.cwd rt.homedir r :=
    unblocked_of_validateFilePath hhome hres
  -- a read reaches the object its checked path locates
  have hread : ∀ {α : Type} {d path} {res : Except Errno (AbsPath × α)},
      resolveAndValidatePath fs rt.cwd rt.homedir payload d = .ok path →
      (∀ {r a}, res = .ok (r, a) → fs.locate rt.cwd (Path.fields path) = .ok r) →
      ∀ o ∈ (res.toOption.map Prod.fst).toList, Unblocked fs rt.cwd rt.homedir o :=
    fun hp hl _ ho =>
      have ⟨_, hs⟩ := ok_of_mem_reached ho
      hun (validateFilePath_of_resolveAndValidatePath hp) (hl hs)
  cases e with
  | stat path o =>
    obtain ⟨-, hp, rfl⟩ := hc
    exact hread hp locate_of_stat
  | readFile path o =>
    obtain ⟨-, hp, -, rfl⟩ := hc
    exact hread hp locate_of_readFile
  | readdir path o =>
    obtain ⟨-, hp, rfl⟩ := hc
    exact hread hp locate_of_readdir
  | spawn request timeout o =>
    obtain ⟨-, command, cwd, hg, -, rfl⟩ := hc
    exact fun o ho => hun (shellGuards_ok hg).2.2.2 (locate_of_spawnCwd (ok_of_mem_toOption ho))
  | mkdir p created =>
    obtain ⟨rfl, -, path, content, hg, rfl, rfl⟩ := hc
    have hp := (writeGuards_ok hg).1
    have hw := hwrite rfl path (parseString_of_resolveAndValidatePath hp)
    simp [Effect.objects, hw.mkdirRecursive]
  | writeFile path content o =>
    obtain ⟨rfl, hg, rfl⟩ := hc
    have hp := (writeGuards_ok hg).1
    have hw := hwrite rfl path (parseString_of_resolveAndValidatePath hp)
    have hfs : fsBeforeWrite rt fs payload path = fs := by
      simp [fsBeforeWrite, hw.mkdirRecursive]
    intro o ho
    rw [hfs] at ho
    exact hw.unblocked hhome hres (validateFilePath_of_resolveAndValidatePath hp)
      (ok_of_mem_toOption ho)
  | kill pid signal => simp [Effect.objects]

/-- Under an absolute home directory whose blocked directories resolve to blocked directories,
every object a command reads, lists, creates, writes or starts a shell in lies outside the
blocked directories and what they resolve to, unless the command writes a path that neither
resolves nor names a new file without `..` in a directory that resolves. -/
theorem executeCommand_objects_unblocked (type : String) (w : World)
    (hhome : Path.isAbsolute (Path.fields rt.homedir) = true)
    (hres : BlockedResolve w.fs rt.cwd rt.homedir)
    (hwrite : type = "file_write" → ∀ path, parseString (payload "path") = some path →
      CheckedWrite w.fs rt.cwd path) :
    ∃ new, (executeCommand K rt env type payload w).2.effects = w.effects ++ new ∧
      ∀ e ∈ new, ∀ o ∈ e.objects, Unblocked w.fs rt.cwd rt.homedir o :=
  (executeCommand_calls K rt env type payload w).mono fun _ =>
    objects_unblocked_of_commandCall hhome hres hwrite

end

/-- The payload of a read of `path`. -/
def pathPayload (path : String) : Payload := fun key =>
  if key = "path" then .str path else .undefined

/-- A file `/f` holding `a`. -/
def fileFs : FileSystem := .ofList [([], ⟨.dir ["f"], 0, 0⟩), (["f"], ⟨.file "a", 1, 0⟩)]

theorem rootBlockedDirs : blockedDirs rootRuntime.cwd rootRuntime.homedir =
    [["etc"], ["proc"], ["sys"], ["dev"], ["private", "etc"], ["private", "var", "db"],
      ["root", ".ssh"], ["root", ".aws"], ["root", ".gnupg"], ["root", ".config", "gcloud"]] := by
  decide

theorem fileFs_blockedResolve : BlockedResolve fileFs rootRuntime.cwd rootRuntime.homedir := by
  intro d hd r hr
  rw [rootBlockedDirs] at hd
  simp only [List.mem_cons, List.mem_singleton, List.not_mem_nil, or_false] at hd
  rcases hd with rfl | rfl | rfl | rfl | rfl | rfl | rfl | rfl | rfl | rfl <;>
    nomatch hr.symm.trans (by decide : fileFs.locate [] _ = .error .ENOENT)

/-- The read of `/f` reaches the file `/f`. -/
theorem objects_unblocked_of_read :
    Path.isAbsolute (Path.fields rootRuntime.homedir) = true ∧
    BlockedResolve fileFs rootRuntime.cwd rootRuntime.homedir ∧
    (executeCommand unitConstants rootRuntime (fun _ => none) "file_read" (pathPayload "/f")
      ⟨fileFs, []⟩).2.effects = [] ++ [.stat "/f" (some ["f"]), .readFile "/f" (some ["f"])] ∧
    ∀ e ∈ [Effect.stat "/f" (some ["f"]), .readFile "/f" (some ["f"])], ∀ o ∈ e.objects,
      Unblocked fileFs rootRuntime.cwd rootRuntime.homedir o := by
  have hhome : Path.isAbsolute (Path.fields rootRuntime.homedir) = true := by decide
  have heff : (executeCommand unitConstants rootRuntime (fun _ => none) "file_read"
      (pathPayload "/f") ⟨fileFs, []⟩).2.effects =
      [] ++ [.stat "/f" (some ["f"]), .readFile "/f" (some ["f"])] := by decide
  obtain ⟨new, hnew, hun⟩ : ∃ new, (executeCommand unitConstants rootRuntime (fun _ => none)
      "file_read" (pathPayload "/f") ⟨fileFs, []⟩).2.effects = [] ++ new ∧
      ∀ e ∈ new, ∀ o ∈ e.objects, Unblocked fileFs rootRuntime.cwd rootRuntime.homedir o :=
    executeCommand_objects_unblocked "file_read" ⟨fileFs, []⟩ hhome fileFs_blockedResolve
      fun h => absurd h (by decide)
  rw [heff] at hnew
  obtain rfl := List.append_cancel_left hnew
  exact ⟨hhome, fileFs_blockedResolve, heff, hun⟩

/-! ## Where the check and the kernel part ways -/

/-- `/tmp/link` is a link to `/etc/evil`, which does not exist. -/
def danglingLinkFs : FileSystem := .ofList
  [([], ⟨.dir ["tmp", "etc"], 0, 0⟩), (["tmp"], ⟨.dir ["link"], 0, 0⟩),
   (["tmp", "link"], ⟨.symlink "/etc/evil", 0, 0⟩), (["etc"], ⟨.dir [], 0, 0⟩)]

/-- The payload of a write of `content` to `path`. -/
def writePayload (path content : String) : Payload := fun key =>
  if key = "path" then .str path else if key = "content" then .str content else .undefined

/-- The payload of a write of `content` to `path` that asks for its directories. -/
def writeDirsPayload (path content : String) : Payload := fun key =>
  if key = "createDirectories" then .bool true else writePayload path content key

/-- The path check accepts `/tmp/link`, which does not resolve, on its parent `/tmp`; the write
then follows the link and creates `/etc/evil`, whatever the constants and the environment. -/
theorem dangling_link_write_reaches_etc (K : Constants) (env : Env) :
    (executeCommand K rootRuntime env "file_write" (writePayload "/tmp/link" "")
      ⟨danglingLinkFs, []⟩).2.effects = [.writeFile "/tmp/link" "" (some ["etc", "evil"])] := by
  have hv : resolveAndValidatePath danglingLinkFs rootRuntime.cwd rootRuntime.homedir
      (writePayload "/tmp/link" "") none = .ok "/tmp/link" := by decide
  have hg : writeGuards K rootRuntime danglingLinkFs (writePayload "/tmp/link" "") =
      .ok ("/tmp/link", "") := by
    simp [writeGuards, hv, writePayload, jsLength]
  have ht : danglingLinkFs.writeTarget rootRuntime.cwd (Path.fields "/tmp/link") =
      .ok ["etc", "evil"] := by decide
  simp only [executeCommand_file_write, Exec.tryCatch, fileWrite, Exec.getFs_bind, hg]
  simp [writePayload, JsonValue.truthy, Exec.bind_apply, Host.writeFile, ht]

/-- `~/.ssh` is a link to `/data/ssh`, which holds a key. -/
def sshLinkFs : FileSystem := .ofList
  [([], ⟨.dir ["root", "data"], 0, 0⟩), (["root"], ⟨.dir [".ssh"], 0, 0⟩),
   (["root", ".ssh"], ⟨.symlink "/data/ssh", 0, 0⟩), (["data"], ⟨.dir ["ssh"], 0, 0⟩),
   (["data", "ssh"], ⟨.dir ["id_rsa"], 0, 0⟩), (["data", "ssh", "id_rsa"], ⟨.file "k", 1, 0⟩)]

/-- `/tmp/link` is a link to the directory `/etc/sub`. -/
def dotDotFs : FileSystem := .ofList
  [([], ⟨.dir ["tmp", "etc"], 0, 0⟩), (["tmp"], ⟨.dir ["link"], 0, 0⟩),
   (["tmp", "link"], ⟨.symlink "/etc/sub", 0, 0⟩), (["etc"], ⟨.dir ["sub"], 0, 0⟩),
   (["etc", "sub"], ⟨.dir [], 0, 0⟩)]

/-- `/tmp/link` is a link to `/etc`. -/
def etcLinkFs : FileSystem := .ofList
  [([], ⟨.dir ["tmp", "etc"], 0, 0⟩), (["tmp"], ⟨.dir ["link"], 0, 0⟩),
   (["tmp", "link"], ⟨.symlink "/etc", 0, 0⟩), (["etc"], ⟨.dir [], 0, 0⟩)]

theorem not_unblocked_etc (fs : FileSystem) (q : AbsPath) :
    ¬ Unblocked fs rootRuntime.cwd rootRuntime.homedir ("etc" :: q) :=
  fun h => (h ["etc"] (by simp [blockedDirs, systemDirs])).1 ⟨q, rfl⟩

/-- The object `/data/ssh/id_rsa` lies under what `~/.ssh` resolves to. -/
theorem not_unblocked_key :
    ¬ Unblocked sshLinkFs rootRuntime.cwd rootRuntime.homedir ["data", "ssh", "id_rsa"] :=
  fun h => (h ["root", ".ssh"] (by decide)).2 ["data", "ssh"] (by decide) ⟨["id_rsa"], rfl⟩

/-- Four calls the path check lets through reach a blocked directory. A write through a dangling
link creates `/etc/evil`. A read of `~/.ssh/id_rsa`, `~/.ssh` being a link to `/data/ssh`, returns
the key. A write of `/tmp/link/../x`, `/tmp/link` being a link to `/etc/sub`, creates `/etc/x`:
the check resolves the parent lexically to `/tmp`, the kernel to `/etc`. A write of
`/tmp/link/new/x` that asks for its directories, `/tmp/link` being a link to `/etc`, makes
`/etc/new` and creates `/etc/new/x`: neither the path nor its parent resolves, so the check
looks at the path as written. -/
theorem path_check_escapes :
    (executeCommand unitConstants rootRuntime (fun _ => none) "file_write"
      (writePayload "/tmp/link" "") ⟨danglingLinkFs, []⟩).2.effects =
      [.writeFile "/tmp/link" "" (some ["etc", "evil"])] ∧
    ¬ Unblocked danglingLinkFs rootRuntime.cwd rootRuntime.homedir ["etc", "evil"] ∧
    (executeCommand unitConstants rootRuntime (fun _ => none) "file_read"
      (pathPayload "/root/.ssh/id_rsa") ⟨sshLinkFs, []⟩).1 =
      .ok { success := true, data := some (.text "k") } ∧
    (executeCommand unitConstants rootRuntime (fun _ => none) "file_read"
      (pathPayload "/root/.ssh/id_rsa") ⟨sshLinkFs, []⟩).2.effects =
      [.stat "/root/.ssh/id_rsa" (some ["data", "ssh", "id_rsa"]),
        .readFile "/root/.ssh/id_rsa" (some ["data", "ssh", "id_rsa"])] ∧
    ¬ Unblocked sshLinkFs rootRuntime.cwd rootRuntime.homedir ["data", "ssh", "id_rsa"] ∧
    (executeCommand unitConstants rootRuntime (fun _ => none) "file_write"
      (writePayload "/tmp/link/../x" "") ⟨dotDotFs, []⟩).2.effects =
      [.writeFile "/tmp/link/../x" "" (some ["etc", "x"])] ∧
    ¬ Unblocked dotDotFs rootRuntime.cwd rootRuntime.homedir ["etc", "x"] ∧
    (executeCommand unitConstants rootRuntime (fun _ => none) "file_write"
      (writeDirsPayload "/tmp/link/new/x" "") ⟨etcLinkFs, []⟩).2.effects =
      [.mkdir ["", "tmp", "link", "new"] [["etc", "new"]],
        .writeFile "/tmp/link/new/x" "" (some ["etc", "new", "x"])] ∧
    ¬ Unblocked etcLinkFs rootRuntime.cwd rootRuntime.homedir ["etc", "new"] :=
  ⟨dangling_link_write_reaches_etc _ _, not_unblocked_etc _ _, by decide, by decide,
    not_unblocked_key, by decide, not_unblocked_etc _ _, by decide, not_unblocked_etc _ _⟩

end SupportAgent
