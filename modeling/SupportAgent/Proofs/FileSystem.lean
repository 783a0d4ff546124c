import SupportAgent.FileSystem

/-!
# Resolution: what a resolved path says of its prefixes

When a path resolves, every directory part of it resolves to a directory (`walk_init_isDir`), in
particular `path.dirname` of it (`walk_dirname`): so `mkdir(path.dirname(p), { recursive: true })`
creates nothing for a path `p` that already resolves.
-/

namespace SupportAgent

namespace FileSystem

section Prefix

variable {fs : FileSystem}

theorem walkWith_cons_isDir {k : AbsPath → RawPath → Except Errno AbsPath} {cur : AbsPath}
    {f : String} {ps : RawPath} {r : AbsPath} (h : fs.walkWith k cur (f :: ps) = .ok r) :
    fs.isDir cur = true := by
  by_contra hc
  simp [walkWith, hc] at h

theorem walk_cons_isDir {n : Nat} {cur : AbsPath} {f : String} {ps : RawPath} {r : AbsPath}
    (h : fs.walk n cur (f :: ps) = .ok r) : fs.isDir cur = true := by
  cases n <;> exact walkWith_cons_isDir h

/-- When the fields `xs ++ y :: ys` resolve, the fields `xs` resolve to a directory: one pass,
with links resolved by a `k` of which the same holds. -/
theorem walkWith_init_isDir {k : AbsPath → RawPath → Except Errno AbsPath}
    (hk : ∀ {d xs y ys r}, k d (xs ++ y :: ys) = .ok r → ∃ m, k d xs = .ok m ∧ fs.isDir m = true)
    (xs : RawPath) : ∀ {cur y ys r}, fs.walkWith k cur (xs ++ y :: ys) = .ok r →
      ∃ m, fs.walkWith k cur xs = .ok m ∧ fs.isDir m = true := by
  induction xs with
  | nil => intro cur y ys r h; exact ⟨cur, rfl, walkWith_cons_isDir h⟩
  | cons f xs ih =>
    intro cur y ys r h
    rw [List.cons_append] at h
    have hd := walkWith_cons_isDir h
    by_cases h1 : f = "" ∨ f = "."
    · simp only [walkWith, hd, h1] at h ⊢
      exact ih h
    by_cases h2 : f = ".."
    · simp only [walkWith, hd, h1, h2] at h ⊢
      exact ih h
    simp only [walkWith, hd, h1, h2] at h ⊢
    cases hkind : fs.kind (cur ++ [f]) with
    | none => simp [hkind] at h
    | some kd =>
      cases kd with
      | symlink t =>
        simp only [hkind] at h ⊢
        exact hk (by rwa [← List.append_assoc] at h)
      | dir es => simp only [hkind] at h ⊢; exact ih h
      | file c => simp only [hkind] at h ⊢; exact ih h

theorem walk_init_isDir : ∀ (n : Nat) {d : AbsPath} {xs : RawPath} {y : String} {ys : RawPath}
    {r : AbsPath}, fs.walk n d (xs ++ y :: ys) = .ok r →
      ∃ m, fs.walk n d xs = .ok m ∧ fs.isDir m = true
  | 0 => walkWith_init_isDir (fun h => by cases h) _
  | n + 1 => walkWith_init_isDir (walk_init_isDir n) _

theorem walk_replicate_empty {n : Nat} {d : AbsPath} (hd : fs.isDir d = true) (k : Nat) :
    fs.walk n d (List.replicate k "") = .ok d := by
  induction k with
  | zero => cases n <;> rfl
  | succ k ih => cases n <;> simpa [List.replicate_succ, walk, walkWith, hd] using ih

/-- When a path resolves, the directory part of it (`path.dirname`) resolves to a directory. -/
theorem walk_dirname {n : Nat} {cwd : AbsPath} {p : RawPath} {r : AbsPath} (hp : p ≠ [])
    (h : fs.walk n (Path.start cwd p) p = .ok r) :
    ∃ m, fs.walk n (Path.start cwd (Path.dirname p)) (Path.dirname p) = .ok m ∧
      fs.isDir m = true := by
  have hstart : fs.isDir (Path.start cwd p) = true := by
    obtain ⟨f, ps, rfl⟩ := List.exists_cons_of_ne_nil hp
    exact walk_cons_isDir h
  -- from the root, a run of empty fields stays at the root
  have hroot : Path.isAbsolute p = true → ∀ k, ∃ m, fs.walk n (Path.start cwd
      (List.replicate (k + 2) "")) (List.replicate (k + 2) "") = .ok m ∧ fs.isDir m = true :=
    fun ha k => by
      simp only [Path.start, ha, if_true] at hstart
      refine ⟨[], ?_, hstart⟩
      rw [show Path.start cwd _ = [] by simp [Path.start, Path.isAbsolute, List.replicate_succ]]
      exact walk_replicate_empty hstart _
  obtain ⟨k, hk⟩ := Path.dropTrailingEmpty_spec p
  unfold Path.dirname
  generalize Path.dropTrailingEmpty p = q at hk ⊢
  have hsingle : ∃ m, fs.walk n (Path.start cwd (if Path.isAbsolute p then ["", ""] else ["."]))
      (if Path.isAbsolute p then ["", ""] else ["."]) = .ok m ∧ fs.isDir m = true := by
    cases ha : Path.isAbsolute p
    · simp [Path.start, ha] at hstart
      exact ⟨cwd, by cases n <;> simp [Path.start, Path.isAbsolute, walk, walkWith, hstart], hstart⟩
    · exact hroot ha 0
  rcases q.eq_nil_or_concat with rfl | ⟨d, x, rfl⟩
  · exact hsingle
  · rw [List.concat_eq_append] at hk ⊢
    rw [List.dropLast_concat]
    split
    · exact hsingle
    · exact hroot (by simp [hk, Path.isAbsolute]) 0
    · exact hroot (by simp [hk, Path.isAbsolute]) 1
    · rename_i h0 h1 _
      have hd : d ≠ [] := fun e => h0 e
      have habs := Path.isAbsolute_append hd (fun e => h1 e) (x :: List.replicate k "") (by simp)
      rw [hk, List.append_assoc, List.singleton_append] at h
      simp only [Path.start, habs] at h ⊢
      exact walk_init_isDir n h

end Prefix

/-! ## The object a call reaches -/

section Reach

variable {fs : FileSystem} {cwd : AbsPath} {p : RawPath} {r : AbsPath}

theorem locate_of_stat {n : Node} (h : fs.stat cwd p = .ok (r, n)) : fs.locate cwd p = .ok r := by
  unfold stat at h
  split at h
  · split at h <;> cases h
    assumption
  · cases h

theorem locate_of_readFile {res : Except Errno String} (h : fs.readFile cwd p = .ok (r, res)) :
    fs.locate cwd p = .ok r := by
  unfold readFile at h
  split at h
  · split at h <;> cases h <;> assumption
  · cases h

theorem locate_of_readdir {es : List Dirent} (h : fs.readdir cwd p = .ok (r, es)) :
    fs.locate cwd p = .ok r := by
  unfold readdir at h
  split at h
  · split at h <;> cases h
    assumption
  · cases h

theorem writeTarget_of_locate (hl : fs.locate cwd p = .ok r) {t : AbsPath}
    (h : fs.writeTarget cwd p = .ok t) : t = r := by
  simp only [writeTarget, hl] at h
  split at h <;> cases h
  rfl

theorem mkdirRecursive_of_isDir {now : Int} {m : AbsPath} (h : fs.locate cwd p = .ok m)
    (hm : fs.isDir m = true) : fs.mkdirRecursive cwd now p = (fs, [], none) := by
  simp [mkdirRecursive, h, hm]

/-- `mkdir(path.dirname(p), { recursive: true })` does nothing when `p` resolves. -/
theorem mkdirRecursive_dirname {now : Int} (hp : p ≠ []) (hl : fs.locate cwd p = .ok r) :
    fs.mkdirRecursive cwd now (Path.dirname p) = (fs, [], none) := by
  obtain ⟨m, hm, hdir⟩ := walk_dirname hp hl
  exact mkdirRecursive_of_isDir hm hdir

end Reach

end FileSystem

end SupportAgent
