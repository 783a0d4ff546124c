import SupportAgent.Proofs.Guards

/-!
# Lexical paths

The fields of a path string hold no separator, and `fields` reads back the string
`renderNames` writes. Lexical normalisation keeps a plain name (no separator, not `''`, `.` or
`..`) as it is. So `path.resolve`, from a working directory of plain names, gives plain names,
and the string of its result resolves to that result again from any directory: the normal form the
guards compare is a fixed point (`resolve_idempotent`). `path.join` of a canonical path and a
plain name is the path one level down (`join_render_name`).
-/

namespace SupportAgent

/-! ## Fields and their rendering -/

theorem splitOnP_no_sep (p : Char → Bool) :
    ∀ (l : List Char), ∀ e ∈ l.splitOnP p, ∀ x ∈ e, p x = false
  | [] => by simp [List.splitOnP_nil]
  | x :: xs => by
    rw [List.splitOnP_cons]
    split_ifs with hx
    · rintro e (_ | ⟨_, he⟩)
      · simp
      · exact splitOnP_no_sep p xs e he
    · obtain ⟨e0, es, hes⟩ := List.exists_cons_of_ne_nil (List.splitOnP_ne_nil p xs)
      rw [hes]
      rintro e (_ | ⟨_, he⟩)
      · rintro y (_ | ⟨_, hy⟩)
        · simpa using hx
        · exact splitOnP_no_sep p xs e0 (hes ▸ .head _) y hy
      · exact splitOnP_no_sep p xs e (hes ▸ .tail _ he)

theorem slash_not_mem_fields (s : String) : ∀ f ∈ Path.fields s, '/' ∉ f.data := by
  simp only [Path.fields, List.mem_map]
  rintro _ ⟨e, he, rfl⟩ h
  simpa using splitOnP_no_sep _ _ e he '/' h

theorem splitOn_append_renderNames :
    ∀ (n : List Char) (ns : List String), '/' ∉ n → (∀ m ∈ ns, '/' ∉ m.data) →
      (n ++ (Path.renderNames ns).data).splitOn '/' = n :: ns.map String.data
  | n, [], hn, _ => by
    simp only [Path.renderNames, List.append_nil, List.map_nil]
    exact List.splitOnP_eq_single _ _ fun x hx h => hn (by rwa [← beq_iff_eq.mp h])
  | n, m :: ns, hn, hms => by
    have ih := splitOn_append_renderNames m.data ns (hms m (.head _)) fun k hk => hms k (.tail _ hk)
    have hsep : (n ++ (Path.renderNames (m :: ns)).data) =
        n ++ '/' :: (m.data ++ (Path.renderNames ns).data) := by
      simp [Path.renderNames]
    rw [hsep, List.map_cons, ← ih]
    exact List.splitOnP_first _ n (fun x hx h => hn (by rwa [← beq_iff_eq.mp h])) '/' (by simp) _

/-- The fields of a path written out from its names: the empty field of the root, then the names. -/
theorem fields_renderNames (ns : List String) (h : ∀ m ∈ ns, '/' ∉ m.data) :
    Path.fields (Path.renderNames ns) = "" :: ns := by
  have := splitOn_append_renderNames [] ns (by simp) h
  rw [List.nil_append] at this
  rw [Path.fields, String.toList, this, List.map_cons, List.map_map]
  simp [Function.comp_def]

/-! ## Plain names -/

/-- A name lexical normalisation keeps as it is: no separator, and not `''`, `.` or `..`. -/
def PlainName (n : String) : Prop := '/' ∉ n.data ∧ n ≠ "" ∧ n ≠ "." ∧ n ≠ ".."

instance : DecidablePred PlainName := fun _ => inferInstanceAs (Decidable (_ ∧ _))

theorem foldl_normalizeField_plain :
    ∀ (acc N : List String), (∀ n ∈ N, PlainName n) →
      N.foldl (Path.normalizeField true) acc = acc ++ N
  | acc, [], _ => by simp
  | acc, n :: N, h => by
    obtain ⟨-, h1, h2, h3⟩ := h n (.head _)
    rw [List.foldl_cons, foldl_normalizeField_plain _ N fun m hm => h m (.tail _ hm)]
    simp [Path.normalizeField, h1, h2, h3]

theorem foldl_normalizeField_names :
    ∀ (acc p : List String), (∀ n ∈ acc, PlainName n) → (∀ f ∈ p, '/' ∉ f.data) →
      ∀ n ∈ p.foldl (Path.normalizeField true) acc, PlainName n
  | acc, [], hacc, _ => hacc
  | acc, f :: p, hacc, hp => by
    refine foldl_normalizeField_names _ p ?_ fun g hg => hp g (.tail _ hg)
    intro n hn
    simp only [Path.normalizeField] at hn
    split_ifs at hn with h1 h2 h3
    · exact hacc n hn
    · exact hacc n hn
    · exact hacc n (List.mem_of_mem_dropLast hn)
    · rcases List.mem_append.mp hn with hn | hn
      · exact hacc n hn
      · obtain rfl := List.mem_singleton.mp hn
        exact ⟨hp n (.head _), fun h => h1 (.inl h), fun h => h1 (.inr h), h2⟩

theorem normalizeNames_plain (p : RawPath) (hp : ∀ f ∈ p, '/' ∉ f.data) :
    ∀ n ∈ Path.normalizeNames true p, PlainName n :=
  foldl_normalizeField_names [] p (by simp) hp

/-! ## `path.resolve` -/

/-- From a working directory of plain names, `path.resolve` of a path string gives plain names. -/
theorem resolve_plain {cwd : AbsPath} (hcwd : ∀ n ∈ cwd, PlainName n) (s : String) :
    ∀ n ∈ Path.resolve cwd (Path.fields s), PlainName n := by
  have hstart : ∀ n ∈ Path.start cwd (Path.fields s), PlainName n := by
    unfold Path.start
    split
    · simp
    · exact hcwd
  have hdd : ".." ∉ Path.start cwd (Path.fields s) := fun h => (hstart _ h).2.2.2 rfl
  rw [Path.resolve, foldl_pushField _ _ hdd]
  exact foldl_normalizeField_names _ _ hstart (slash_not_mem_fields s)

/-- A path of plain names, written out and resolved from any directory, is itself. -/
theorem resolve_fields_render {q : AbsPath} (hq : ∀ n ∈ q, PlainName n) (cwd : AbsPath) :
    Path.resolve cwd (Path.fields (Path.render q)) = q := by
  cases q with
  | nil =>
    have hroot : Path.fields (Path.render []) = ["", ""] := by decide
    simp [hroot, Path.resolve, Path.start, Path.isAbsolute, Path.pushField]
  | cons n ns =>
    have hf : Path.fields (Path.render (n :: ns)) = "" :: n :: ns := by
      rw [Path.render, if_neg (List.cons_ne_nil _ _)]
      exact fields_renderNames _ fun m hm => (hq m hm).1
    rw [hf, resolve_of_isAbsolute cwd (by simp [Path.isAbsolute]), Path.normalizeNames,
      List.foldl_cons]
    simpa [Path.normalizeField] using foldl_normalizeField_plain [] _ hq

/-- From a working directory of plain names, `path.resolve` gives plain names, and the string of
its result, resolved again from any directory, gives that result back. -/
theorem resolve_idempotent {cwd : AbsPath} (hcwd : ∀ n ∈ cwd, PlainName n) (s : String) :
    (∀ n ∈ Path.resolve cwd (Path.fields s), PlainName n) ∧
      ∀ cwd', Path.resolve cwd' (Path.fields (Path.render (Path.resolve cwd (Path.fields s)))) =
        Path.resolve cwd (Path.fields s) :=
  ⟨resolve_plain hcwd s, resolve_fields_render (resolve_plain hcwd s)⟩

/-! ## `path.join` -/

/-- `path.join` of a canonical path and a plain name is the path one level down. -/
theorem join_render_name {d : AbsPath} (hd : ∀ n ∈ d, PlainName n) {f : String}
    (hf : PlainName f) : Path.join (Path.render d) f = Path.render (d ++ [f]) := by
  have hfl : Path.fields f = [f] := by
    rw [Path.fields, List.splitOn, List.splitOnP_eq_single _ _
      fun x hx h => hf.1 (by rwa [← beq_iff_eq.mp h])]
    rfl
  obtain ⟨hs, h1, h2, h3⟩ := hf
  cases d with
  | nil =>
    have hroot : Path.fields (Path.render []) = ["", ""] := by decide
    have hr0 : Path.render [] ≠ "" := by decide
    simp [Path.join, hroot, hr0, hfl, h1, h2, h3, Path.isAbsolute, Path.normalizeNames,
      Path.normalizeField]
  | cons n ns =>
    have hfd : Path.fields (Path.render (n :: ns)) = "" :: n :: ns := by
      rw [Path.render, if_neg (List.cons_ne_nil _ _)]
      exact fields_renderNames _ fun m hm => (hd m hm).1
    have hne : Path.render (n :: ns) ≠ "" := by
      intro h
      rw [h, show Path.fields "" = [""] by decide] at hfd
      cases hfd
    have hnorm : Path.normalizeNames true ("" :: n :: (ns ++ [f])) = n :: (ns ++ [f]) := by
      rw [Path.normalizeNames, List.foldl_cons, ← List.cons_append,
        foldl_normalizeField_plain _ _ fun m hm => ?_]
      · simp [Path.normalizeField]
      · rcases List.mem_append.mp hm with hm | hm
        · exact hd m hm
        · rw [List.mem_singleton.mp hm]; exact ⟨hs, h1, h2, h3⟩
    simp [Path.join, hne, h1, hfd, hfl, Path.isAbsolute, hnorm]

end SupportAgent
