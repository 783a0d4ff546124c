import SupportAgent.Proofs.PathCheck
import Mathlib.Data.List.Forall2

/-!
# What the file handlers return and write

`fileList` reports the entries `readdir` gives, up to `MAX_DIR_ENTRIES` of them and in their
order, one item per entry whatever `lstat` does on it (`fileList_listing`). An item takes its size
and time from `lstat` only when `toISOString` accepts the time too: a file dated past the range of
`Date` is listed with size `0` and time `''` (`far_future_entry_zeroed`).

`fileWrite` bounds the content's `length`, in UTF-16 code units, and writes its UTF-8 bytes: up to
three bytes a unit, so a write of `MAX_FILE_WRITE_SIZE` units of `€` puts three times the limit on
disk (`fileWrite_exceeds_limit`).
-/

namespace SupportAgent

open FileSystem

/-! ## Listings -/

section Listing

variable {K : Constants} {rt : Runtime}

/-- `item` is what `fileList` reports for the entry `entry` of `dirPath`: its name, its type, and
the size and time `lstat` gives when `lstat` succeeds and the time is in the range of `Date`,
otherwise `0` and `''`. -/
def Listed (rt : Runtime) (fs : FileSystem) (dirPath : String) (entry : Dirent)
    (item : ListItem) : Prop :=
  item.name = entry.name ∧ item.type = (if entry.isDirectory then "directory" else "file") ∧
    match fs.lstat rt.cwd (Path.fields (Path.join dirPath entry.name)) with
    | .ok n =>
      if n.mtimeMs.natAbs ≤ 8640000000000000 then
        item.size = n.size ∧ item.modified = rt.isoString n.mtimeMs
      else item.size = 0 ∧ item.modified = ""
    | .error _ => item.size = 0 ∧ item.modified = ""

theorem listed_listItem (fs : FileSystem) (dirPath : String) (entry : Dirent) :
    Listed rt fs dirPath entry (listItem rt fs dirPath entry) := by
  unfold Listed listItem
  cases hl : fs.lstat rt.cwd (Path.fields (Path.join dirPath entry.name)) with
  | error e => simp [hl, Except.mapError, bind, Except.bind]
  | ok n =>
    by_cases ht : n.mtimeMs.natAbs ≤ 8640000000000000
    · have ht' : ¬ 8640000000000000 < n.mtimeMs.natAbs := by omega
      simp [hl, ht, ht', Except.mapError, bind, Except.bind, toISOString, pure, Except.pure]
    · have ht' : 8640000000000000 < n.mtimeMs.natAbs := by omega
      simp [hl, ht, ht', Except.mapError, bind, Except.bind, toISOString]

/-- A listing of a directory the path check accepts and `readdir` reads. -/
theorem fileList_eq {payload : Payload} {w : World} {path : String} {d : AbsPath}
    {entries : List Dirent}
    (hp : resolveAndValidatePath w.fs rt.cwd rt.homedir payload (some ".") = .ok path)
    (hd : w.fs.readdir rt.cwd (Path.fields path) = .ok (d, entries)) :
    (fileList K rt payload w).1 =
      .ok { success := true,
            data := some (.listing ((entries.take K.MAX_DIR_ENTRIES).map (listItem rt w.fs path))
              (decide (K.MAX_DIR_ENTRIES < entries.length)) entries.length) } := by
  simp only [fileList, Exec.getFs_bind, hp]
  simp [Exec.bind_apply, Exec.getFs, Host.readdir, Host.call, hd]

/-- On a directory the path check accepts, `fileList` succeeds with one item per entry up to
`MAX_DIR_ENTRIES`, in order, each what `Listed` says whatever `lstat` does on it, and with the
listing truncated exactly when items are missing. -/
theorem fileList_listing (env : Env) (payload : Payload) (w : World) {path : String}
    {d : AbsPath} {entries : List Dirent}
    (hp : resolveAndValidatePath w.fs rt.cwd rt.homedir payload (some ".") = .ok path)
    (hd : w.fs.readdir rt.cwd (Path.fields path) = .ok (d, entries)) :
    ∃ items, (executeCommand K rt env "file_list" payload w).1 =
        .ok { success := true,
              data := some (.listing items (decide (K.MAX_DIR_ENTRIES < entries.length))
                entries.length) } ∧
      items.length = min entries.length K.MAX_DIR_ENTRIES ∧
      (K.MAX_DIR_ENTRIES < entries.length ↔ items.length < entries.length) ∧
      List.Forall₂ (Listed rt w.fs path) (entries.take K.MAX_DIR_ENTRIES) items := by
  refine ⟨(entries.take K.MAX_DIR_ENTRIES).map (listItem rt w.fs path), ?_, by simp [Nat.min_comm],
    by simp,
    List.forall₂_map_right_iff.mpr (List.forall₂_same.mpr fun e _ => listed_listItem _ _ e)⟩
  have h := fileList_eq (K := K) hp hd
  simp only [executeCommand_file_list, Exec.tryCatch]
  split <;> simp_all

end Listing

/-- The payload of a listing of `path`. -/
def listPayload (path : String) : Payload := fun key =>
  if key = "path" then .str path else .undefined

/-- `/d/x` is a file of 5 bytes dated 10¹⁶ ms after the epoch, past the range of `Date`. -/
def farFutureFs : FileSystem := .ofList
  [([], ⟨.dir ["d"], 0, 0⟩), (["d"], ⟨.dir ["x"], 0, 0⟩), (["d", "x"], ⟨.file "hello", 5, 10 ^ 16⟩)]

/-- `lstat` on `/d/x` succeeds, yet `/d/x` is listed with size `0` and time `''` (when it is
listed at all, that is when `MAX_DIR_ENTRIES` is not `0`). -/
theorem far_future_entry_zeroed (K : Constants) (env : Env) :
    farFutureFs.lstat rootRuntime.cwd (Path.fields "/d/x") = .ok ⟨.file "hello", 5, 10 ^ 16⟩ ∧
    (executeCommand K rootRuntime env "file_list"
      (listPayload "/d") ⟨farFutureFs, []⟩).1 =
      .ok { success := true,
            data := some (.listing ([⟨"x", "file", 0, ""⟩].take K.MAX_DIR_ENTRIES)
              (decide (K.MAX_DIR_ENTRIES < 1)) 1) } := by
  have hp : resolveAndValidatePath farFutureFs rootRuntime.cwd rootRuntime.homedir
      (listPayload "/d") (some ".") = .ok "/d" := by
    decide
  have hd : farFutureFs.readdir rootRuntime.cwd (Path.fields "/d") =
      .ok (["d"], [⟨"x", false⟩]) := by decide
  have hx : listItem rootRuntime farFutureFs "/d" ⟨"x", false⟩ = ⟨"x", "file", 0, ""⟩ := by decide
  refine ⟨by decide, ?_⟩
  have h := fileList_eq (K := K) (w := ⟨farFutureFs, []⟩) hp hd
  simp only [executeCommand_file_list, Exec.tryCatch]
  split <;> simp_all [List.map_take]

theorem far_future_entry_unlisted :
    farFutureFs.lstat rootRuntime.cwd (Path.fields "/d/x") = .ok ⟨.file "hello", 5, 10 ^ 16⟩ ∧
    (executeCommand unitConstants rootRuntime (fun _ => none) "file_list"
      (listPayload "/d") ⟨farFutureFs, []⟩).1 =
      .ok { success := true, data := some (.listing [⟨"x", "file", 0, ""⟩] false 1) } :=
  far_future_entry_zeroed unitConstants (fun _ => none)

theorem fileList_listing_far_future :
    ∃ items, (executeCommand unitConstants rootRuntime (fun _ => none) "file_list"
        (listPayload "/d") ⟨farFutureFs, []⟩).1 =
        .ok { success := true, data := some (.listing items false 1) } ∧
      items.length = min 1 1 ∧ (1 < 1 ↔ items.length < 1) ∧
      List.Forall₂ (Listed rootRuntime farFutureFs "/d") [⟨"x", false⟩] items :=
  @fileList_listing unitConstants rootRuntime (fun _ => none) (listPayload "/d") ⟨farFutureFs, []⟩
    "/d" ["d"] [⟨"x", false⟩] (by decide) (by decide)

/-! ## Writes -/

theorem utf8ByteSize_go_replicate (n : Nat) (c : Char) :
    String.utf8ByteSize.go (List.replicate n c) = n * c.utf8Size := by
  induction n with
  | zero => simp [String.utf8ByteSize.go]
  | succ n ih => rw [List.replicate_succ, String.utf8ByteSize.go, ih, Nat.succ_mul]

/-- `n` copies of `€`: one UTF-16 code unit each, three bytes in UTF-8. -/
def euroContent (n : Nat) : String := String.mk (List.replicate n '€')

theorem jsLength_euroContent (n : Nat) : jsLength (euroContent n) = n := by
  induction n with
  | zero => rfl
  | succ n ih => simp_all [jsLength, euroContent, List.replicate_succ]; omega

/-- The file system holding only the root directory. -/
def rootOnlyFs : FileSystem := .ofList [([], ⟨.dir [], 0, 0⟩)]

theorem resolveAndValidatePath_congr {fs : FileSystem} {cwd : AbsPath} {home : String}
    {p q : Payload} (h : p "path" = q "path") (d : Option String) :
    resolveAndValidatePath fs cwd home p d = resolveAndValidatePath fs cwd home q d := by
  simp [resolveAndValidatePath, h]

/-- A write of `MAX_FILE_WRITE_SIZE` units of `€` to `/f` passes the size check and leaves a
file of three times `MAX_FILE_WRITE_SIZE` bytes. -/
theorem fileWrite_exceeds_limit (K : Constants) (env : Env) (h : 0 < K.MAX_FILE_WRITE_SIZE) :
    (executeCommand K rootRuntime env "file_write"
      (writePayload "/f" (euroContent K.MAX_FILE_WRITE_SIZE)) ⟨rootOnlyFs, []⟩).1 =
      .ok { success := true, data := some (.text "Written to /f") } ∧
    ((executeCommand K rootRuntime env "file_write"
      (writePayload "/f" (euroContent K.MAX_FILE_WRITE_SIZE)) ⟨rootOnlyFs, []⟩).2.fs.node
      ["f"]).map Node.size = some (3 * K.MAX_FILE_WRITE_SIZE) ∧
    K.MAX_FILE_WRITE_SIZE < 3 * K.MAX_FILE_WRITE_SIZE := by
  set content := euroContent K.MAX_FILE_WRITE_SIZE
  have hv : resolveAndValidatePath rootOnlyFs rootRuntime.cwd rootRuntime.homedir
      (writePayload "/f" content) none = .ok "/f" :=
    (resolveAndValidatePath_congr (q := writePayload "/f" "") (by simp [writePayload]) none).trans
      (by decide)
  have hg : writeGuards K rootRuntime rootOnlyFs (writePayload "/f" content) =
      .ok ("/f", content) := by
    simp [writeGuards, hv, writePayload, content, jsLength_euroContent]
  have ht : rootOnlyFs.writeTarget rootRuntime.cwd (Path.fields "/f") = .ok ["f"] := by decide
  have hsize : content.utf8ByteSize = 3 * K.MAX_FILE_WRITE_SIZE := by
    rw [Nat.mul_comm]
    exact utf8ByteSize_go_replicate _ '€'
  simp only [executeCommand_file_write, Exec.tryCatch, fileWrite, Exec.getFs_bind, hg]
  simp [writePayload, JsonValue.truthy, Exec.bind_apply, Host.writeFile, ht, FileSystem.put,
    FileSystem.insert, Host.writtenNode, Host.fileNode, hsize]
  omega

theorem fileWrite_exceeds_limit_unit :
    (executeCommand unitConstants rootRuntime (fun _ => none) "file_write"
      (writePayload "/f" (euroContent 1)) ⟨rootOnlyFs, []⟩).1 =
      .ok { success := true, data := some (.text "Written to /f") } ∧
    ((executeCommand unitConstants rootRuntime (fun _ => none) "file_write"
      (writePayload "/f" (euroContent 1)) ⟨rootOnlyFs, []⟩).2.fs.node ["f"]).map Node.size =
      some 3 ∧ 1 < 3 :=
  fileWrite_exceeds_limit unitConstants (fun _ => none) (by decide)

end SupportAgent
