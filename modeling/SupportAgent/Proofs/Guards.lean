import SupportAgent.Guards

/-!
# What the guards guarantee

A canonical path the path check accepts lies under none of the blocked directories taken as
written; it lies under none of the objects they resolve to as long as each blocked directory that
resolves resolves to a blocked directory (`unblocked_of_validateFilePath`). `buildSafeEnv` is the
restriction of the host environment to `SAFE_ENV_KEYS` (`lookup_buildSafeEnv`).
-/

namespace SupportAgent

/-! ## Paths

A blocked directory is the directory a prefix names: for `BLOCKED_PATH_PREFIXES` the directory
written, for `getSensitiveHomePaths` the home directory's subdirectory, read from the working
directory when the home directory is relative. The check compares strings with the canonical path,
so it catches the latter only for an absolute home directory. -/

/-- The directories of `BLOCKED_PATH_PREFIXES`. -/
def systemDirs : List AbsPath :=
  [["etc"], ["proc"], ["sys"], ["dev"], ["private", "etc"], ["private", "var", "db"]]

/-- The directories `getSensitiveHomePaths` names. -/
def sensitiveDirs (cwd : AbsPath) (home : String) : List AbsPath :=
  SENSITIVE_HOME_DIRS.map fun dir => Path.resolve cwd (Path.fields home ++ Path.fields dir)

/-- Every blocked directory. -/
def blockedDirs (cwd : AbsPath) (home : String) : List AbsPath := systemDirs ++ sensitiveDirs cwd home

/-- The canonical path `t` lies under no blocked directory: neither under one as written, nor
under the object its names, read from the root, resolve to in `fs` (a link such as
`~/.ssh → /data/ssh`). -/
def Unblocked (fs : FileSystem) (cwd : AbsPath) (home : String) (t : AbsPath) : Prop :=
  ∀ d ∈ blockedDirs cwd home, ¬ d <+: t ∧ ∀ r, fs.locate [] d = .ok r → ¬ r <+: t

/-- Each blocked directory that resolves in `fs` resolves to a blocked directory: to itself, or
to another the list names (`/etc` to `/private/etc` on macOS). The prefixes are strings, so the
check relies on this. -/
def BlockedResolve (fs : FileSystem) (cwd : AbsPath) (home : String) : Prop :=
  ∀ d ∈ blockedDirs cwd home, ∀ r, fs.locate [] d = .ok r → r ∈ blockedDirs cwd home

theorem BLOCKED_PATH_PREFIXES_eq :
    BLOCKED_PATH_PREFIXES = systemDirs.map fun d => Path.render d ++ "/" := by
  decide

theorem withoutTrailingSlash_append (s : String) : withoutTrailingSlash (s ++ "/") = s := by
  simp [withoutTrailingSlash]

/-- A canonical path under the directory `d` (or `d` itself) is caught by `d`'s prefix. -/
theorem blockedBy_of_isPrefix {d r : AbsPath} (hd : d ≠ []) (h : d <+: r) :
    blockedBy (Path.render r) (Path.render d ++ "/") = true := by
  obtain ⟨e, rfl⟩ := h
  cases e with
  | nil => simp [blockedBy, withoutTrailingSlash_append]
  | cons n e =>
    rw [Path.render_append_cons d hd]
    simp [blockedBy, List.isPrefixOf_iff_prefix, String.append_assoc]

theorem normalizeNames_append_name (b : Bool) (p : RawPath) {f : String} (hf : f ≠ "")
    (hf' : f ≠ ".") (hf'' : f ≠ "..") :
    Path.normalizeNames b (p ++ [f]) = Path.normalizeNames b p ++ [f] := by
  simp [Path.normalizeNames, Path.normalizeField, List.foldl_append, hf, hf', hf'']

/-- Names without `..` are normalised by `path.resolve` as by `normalizeString`. -/
theorem foldl_pushField (p : RawPath) (acc : AbsPath) (h : ".." ∉ acc) :
    p.foldl Path.pushField acc = p.foldl (Path.normalizeField true) acc := by
  induction p generalizing acc with
  | nil => rfl
  | cons f p ih =>
    have hlast : acc.getLast? ≠ some ".." := fun hl => h (List.mem_of_mem_getLast? hl)
    have hstep : Path.pushField acc f = Path.normalizeField true acc f := by
      by_cases hf : f = "" ∨ f = "."
      · simp [Path.pushField, Path.normalizeField, hf]
      · by_cases hacc : acc = [] <;> simp [Path.pushField, Path.normalizeField, hf, hacc, hlast]
    rw [List.foldl_cons, List.foldl_cons, hstep]
    refine ih _ fun hmem => ?_
    simp only [Path.normalizeField] at hmem
    split_ifs at hmem
    · exact h hmem
    · exact h hmem
    · exact h (List.dropLast_subset _ hmem)
    · simp_all

theorem resolve_of_isAbsolute (cwd : AbsPath) {p : RawPath} (h : Path.isAbsolute p = true) :
    Path.resolve cwd p = Path.normalizeNames true p := by
  simp [Path.resolve, Path.start, h, Path.normalizeNames, foldl_pushField]

/-- The prefix `getSensitiveHomePaths` gives for a directory of an absolute home directory. -/
theorem join_home (cwd : AbsPath) {home : String} (h : Path.isAbsolute (Path.fields home) = true)
    {dir : String} (hdir : dir ∈ SENSITIVE_HOME_DIRS) :
    Path.join home dir = Path.render (Path.resolve cwd (Path.fields home ++ Path.fields dir))
      ∧ Path.resolve cwd (Path.fields home ++ Path.fields dir) ≠ [] := by
  have hne : home ≠ "" := by rintro rfl; simp [Path.isAbsolute, Path.fields] at h
  have habs : Path.isAbsolute (Path.fields home ++ Path.fields dir) = true := by
    rwa [Path.isAbsolute_append (by rintro h'; simp [h', Path.isAbsolute] at h)
      (by rintro h'; simp [h', Path.isAbsolute] at h) _ (Path.fields_ne_nil dir)]
  rw [resolve_of_isAbsolute cwd habs]
  simp only [SENSITIVE_HOME_DIRS, List.mem_cons, List.mem_singleton, List.not_mem_nil,
    or_false] at hdir
  refine ⟨by simp [Path.join, hne, habs, show dir ≠ "" by rcases hdir with rfl | rfl | rfl | rfl <;>
    decide], ?_⟩
  obtain ⟨q, f, hq, hf⟩ : ∃ q f, Path.fields dir = q ++ [f] ∧ f ≠ "" ∧ f ≠ "." ∧ f ≠ ".." := by
    rcases hdir with rfl | rfl | rfl | rfl
    · exact ⟨[], ".ssh", by decide, by decide⟩
    · exact ⟨[], ".aws", by decide, by decide⟩
    · exact ⟨[], ".gnupg", by decide, by decide⟩
    · exact ⟨[".config"], "gcloud", by decide, by decide⟩
  rw [hq, ← List.append_assoc, normalizeNames_append_name _ _ hf.1 hf.2.1 hf.2.2]
  simp

section Check

variable {cwd : AbsPath} {home : String} (habs : Path.isAbsolute (Path.fields home) = true)
include habs

/-- Every blocked directory is tried by the check, as its string and a separator. -/
theorem mem_blockedDirs {d : AbsPath} (h : d ∈ blockedDirs cwd home) :
    d ≠ [] ∧ Path.render d ++ "/" ∈ BLOCKED_PATH_PREFIXES ++ getSensitiveHomePaths home := by
  rcases List.mem_append.mp h with hs | hh
  · have hne : d ≠ [] := by
      simp only [systemDirs, List.mem_cons, List.mem_singleton, List.not_mem_nil] at hs
      rcases hs with rfl | rfl | rfl | rfl | rfl | rfl | hs <;> simp_all
    refine ⟨hne, ?_⟩
    rw [BLOCKED_PATH_PREFIXES_eq]
    exact List.mem_append_left _ (List.mem_map_of_mem _ hs)
  · obtain ⟨dir, hdir, rfl⟩ := List.mem_map.mp hh
    obtain ⟨hjoin, hne⟩ := join_home cwd habs hdir
    refine ⟨hne, List.mem_append_right _ (List.mem_map.mpr ⟨dir, hdir, ?_⟩)⟩
    rw [hjoin]

/-- A canonical path no prefix catches lies under no blocked directory as written. -/
theorem not_isPrefix_of_check {r : AbsPath}
    (h : (BLOCKED_PATH_PREFIXES ++ getSensitiveHomePaths home).find? (blockedBy (Path.render r)) =
      none) {d : AbsPath} (hd : d ∈ blockedDirs cwd home) : ¬ d <+: r := by
  intro hpre
  obtain ⟨hne, hmem⟩ := mem_blockedDirs habs hd
  have := List.find?_eq_none.mp h _ hmem
  simp [blockedBy_of_isPrefix hne hpre] at this

/-- A canonical path no prefix catches is unblocked, when the blocked directories resolve to
blocked directories. -/
theorem unblocked_of_check {fs : FileSystem} (hres : BlockedResolve fs cwd home) {r : AbsPath}
    (h : (BLOCKED_PATH_PREFIXES ++ getSensitiveHomePaths home).find? (blockedBy (Path.render r)) =
      none) : Unblocked fs cwd home r :=
  fun _ hd => ⟨not_isPrefix_of_check habs h hd,
    fun _ hl => not_isPrefix_of_check habs h (hres _ hd _ hl)⟩

/-- When `validateFilePath` accepts a path that resolves, the object it resolves to is
unblocked. -/
theorem unblocked_of_validateFilePath {fs : FileSystem} (hres : BlockedResolve fs cwd home)
    {filePath : String} {r : AbsPath} (hv : validateFilePath fs cwd home filePath = none)
    (hr : fs.locate cwd (Path.fields filePath) = .ok r) : Unblocked fs cwd home r :=
  unblocked_of_check habs hres (by simpa [validateFilePath, resolvedPath, hr] using hv)

end Check

/-! ## The environment -/

theorem lookup_filterMap_keys (env : Env) (k : String) (keys : List String) :
    (keys.filterMap fun key => (env key).map (key, ·)).lookup k =
      if k ∈ keys then env k else none := by
  induction keys with
  | nil => simp
  | cons key keys ih =>
    rw [List.filterMap_cons]
    by_cases hk : k = key
    · subst hk
      cases hv : env k <;> simp [hv, ih, List.lookup_cons]
    · have hkb : (k == key) = false := by simpa using hk
      cases hv : env key <;> simp [hv, List.lookup_cons, hkb, ih, hk]

theorem lookup_buildSafeEnv (env : Env) (k : String) :
    (buildSafeEnv env).lookup k = if k ∈ SAFE_ENV_KEYS then env k else none :=
  lookup_filterMap_keys env k SAFE_ENV_KEYS

theorem filterMap_keys_sublist (env : Env) (keys : List String) :
    List.Sublist ((keys.filterMap fun key => (env key).map (key, ·)).map Prod.fst) keys := by
  induction keys with
  | nil => simp
  | cons key keys ih => cases hv : env key <;> simp [List.filterMap_cons, hv, ih, ih.cons]

/-- The names `buildSafeEnv` sets are allow-listed, each once, in the allow-list's order. -/
theorem buildSafeEnv_keys_sublist (env : Env) :
    List.Sublist ((buildSafeEnv env).map Prod.fst) SAFE_ENV_KEYS :=
  filterMap_keys_sublist env SAFE_ENV_KEYS

theorem buildSafeEnv_congr {env₁ env₂ : Env} (h : ∀ k ∈ SAFE_ENV_KEYS, env₁ k = env₂ k) :
    buildSafeEnv env₁ = buildSafeEnv env₂ :=
  List.filterMap_congr fun k hk => by rw [h k hk]

end SupportAgent
