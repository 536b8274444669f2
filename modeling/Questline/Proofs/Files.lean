import Questline.Files
import Questline.Proofs.Results
import Questline.Proofs.Steps

/-! A file is read as it was moved to where a path leads, and moving it can only fail because of the
files. -/

namespace Questline

/-- A fault of files and folders. -/
def Fault.OfFiles (why : Fault) : Prop := ∃ fault path, why = .file fault path

namespace Files

open MessagePack (Bytes)

variable {files files' : Files} {path : String}

theorem enter_eq_ok {place : Place} :
    files.enter place = .ok () ↔ files.isFolderAt place = true := by
  unfold enter
  split
  next h => simp [h]
  next h => simp [h]

theorem follow_append (files : Files) (place : Place) (before after : List String) :
    files.follow place (before ++ after) =
      (files.follow place before).bind (files.follow · after) := by
  induction before generalizing place with
  | nil => rfl
  | cons part rest ih =>
    rw [List.cons_append, follow, follow]
    cases files.enter place with
    | error why => rfl
    | ok u =>
      rw [ok_bind, ok_bind]
      split
      · exact ih place
      split
      · exact ih _
      split
      · rfl
      · exact ih _

/-- A path leads to the same place as long as the folders stay the same. -/
theorem follow_of_folders (h : files'.isFolderAt = files.isFolderAt) {place found : Place}
    {parts : List String} (hfollow : files.follow place parts = .ok found) :
    files'.follow place parts = .ok found := by
  induction parts generalizing place with
  | nil => exact hfollow
  | cons part rest ih =>
    rw [follow] at hfollow ⊢
    obtain ⟨u, henter, hrest⟩ := bind_eq_ok.1 hfollow
    rw [enter_eq_ok.2 (h ▸ enter_eq_ok.1 henter), ok_bind]
    split at hrest <;> rename_i hdot
    · rw [if_pos hdot]
      exact ih hrest
    rw [if_neg hdot]
    split at hrest <;> rename_i hup
    · rw [if_pos hup]
      exact ih hrest
    rw [if_neg hup]
    split at hrest <;> rename_i hlong
    · cases hrest
    rw [if_neg hlong]
    exact ih hrest

/-- A path that does not end in a slash ends in the name, behind the way to the folder. -/
theorem of_target {t : Target} {name : String} (h : files.target path = .ok t)
    (hname : t.name = some name) (hslashed : t.slashed = false) :
    ∃ before, path.splitOn "/" = before ++ [name] ∧
      files.follow (files.start path) before = .ok t.folder ∧ files.enter t.folder = .ok () ∧
      name ≠ "" ∧ name ≠ "." ∧ name ≠ ".." ∧ ¬ name.utf8ByteSize > maxName := by
  obtain ⟨_, _, h⟩ := bind_eq_ok.1 h
  generalize path.splitOn "/" = parts at h ⊢
  dsimp only at h
  split at h
  next =>
    cases h
    cases hname
  next last before hparts =>
    obtain ⟨folder, hfolder, h⟩ := bind_eq_ok.1 h
    obtain ⟨⟨⟩, henter, h⟩ := bind_eq_ok.1 h
    split at h <;> rename_i hdots
    · cases h
      cases hname
    split at h <;> rename_i hlong
    · cases h
    cases h
    cases hname
    have hempty : parts.getLast? ≠ some "" := of_decide_eq_false hslashed
    -- so no empty part has been dropped at the end
    have hwhole : parts.reverse = name :: before := by
      rw [← List.head?_reverse] at hempty
      cases hreverse : parts.reverse with
      | nil => rw [hreverse] at hparts; cases hparts
      | cons first later =>
        rw [hreverse, List.head?_cons, ne_eq, Option.some_inj] at hempty
        rw [hreverse, List.dropWhile_cons_of_neg (by simpa using hempty)] at hparts
        exact hparts
    rw [not_or] at hdots
    refine ⟨before.reverse, ?_, hfolder, henter, ?_, hdots.1, hdots.2, hlong⟩
    · rw [← List.reverse_reverse parts, hwhole, List.reverse_cons]
    · rw [← List.head?_reverse, hwhole, List.head?_cons, ne_eq, Option.some_inj] at hempty
      exact hempty

theorem place_of_target {t : Target} {name : String} (h : files.target path = .ok t)
    (hname : t.name = some name) (hslashed : t.slashed = false) :
    files.place path = .ok (t.folder ++ [name]) := by
  obtain ⟨_, hcheck, _⟩ := bind_eq_ok.1 h
  obtain ⟨before, hsplit, hway, henter, hempty, hdot, hup, hlong⟩ := of_target h hname hslashed
  rw [place, hcheck, ok_bind, hsplit, follow_append, hway]
  change files.follow t.folder [name] = _
  rw [follow, henter, ok_bind, if_neg (not_or.2 ⟨hempty, hdot⟩), if_neg hup, if_neg hlong]
  rfl

theorem place_of_folders (hfolders : files'.isFolderAt = files.isFolderAt)
    (hstart : files'.start path = files.start path) {found : Place}
    (h : files.place path = .ok found) : files'.place path = .ok found := by
  obtain ⟨_, hcheck, hfollow⟩ := bind_eq_ok.1 h
  rw [place, hcheck, ok_bind, hstart]
  exact follow_of_folders hfolders hfollow

theorem ends_atTarget {step : Target → Files → Except FileFault Files} {Q : Files → Prop}
    (h : ∀ t files', files.target path = .ok t → step t files = .ok files' → Q files') :
    Ends (atTarget path step) files (fun _ => Q) (fun why _ => why.OfFiles) := by
  unfold Ends atTarget
  cases hmoved : (files.target path).bind fun t => step t files with
  | error why => exact ⟨why, path, rfl⟩
  | ok files' =>
    obtain ⟨t, ht, hstep⟩ := bind_eq_ok.1 hmoved
    exact h t files' ht hstep

/-- What has been moved to where a path leads is read there. -/
theorem ends_moveTo (path : String) (bytes : Bytes) (files : Files) :
    Ends (moveTo path bytes) files (fun _ files' => files'.read path = .ok bytes)
      (fun why _ => why.OfFiles) := by
  refine ends_atTarget fun t files' ht hmoved => ?_
  dsimp only at hmoved
  split at hmoved
  next => cases hmoved
  next name hname =>
    split at hmoved <;> rename_i hslashed
    · cases hmoved
    split at hmoved <;> rename_i hfolder
    · cases hmoved
    injection hmoved with hmoved
    have hfolders : files'.isFolderAt = files.isFolderAt := by rw [← hmoved]; rfl
    have hstart : files'.start path = files.start path := by rw [← hmoved]; rfl
    have hfile : files'.fileAt? (t.folder ++ [name]) = some bytes := by
      rw [← hmoved]
      exact Assoc.get?_put_self ..
    rw [read, place_of_folders hfolders hstart
      (place_of_target ht hname (Bool.eq_false_iff.2 hslashed))]
    change Except.mapError _ (files'.bytesAt (t.folder ++ [name])) = _
    rw [bytesAt, hfolders, if_neg hfolder, hfile]
    rfl

/-- A step that can only fail because of the files. -/
def Fallible (step : FilesStep Unit) : Prop :=
  ∀ files, Ends step files (fun _ _ => True) (fun why _ => why.OfFiles)

theorem Fallible.pure : Fallible (pure ()) := fun _ => trivial

theorem Fallible.andThen {first second : FilesStep Unit} (h : Fallible first)
    (h' : Fallible second) : Fallible (first >>= fun _ => second) := fun files =>
  ends_bind.2 ((h files).mono (fun _ t _ => h' t) fun _ _ => id)

theorem Fallible.unless {step : FilesStep Unit} (h : Fallible step) (c : Bool) :
    Fallible (unless c do step) := by
  cases c
  · exact h
  · exact .pure

theorem Fallible.ignoring {step : FilesStep Unit} (h : Fallible step)
    (harmless : Fault → Files → Bool) : Fallible (ignoring harmless step) := by
  intro files
  have hstep := h files
  unfold Ends Files.ignoring at *
  cases hrun : step files with
  | ok u after => trivial
  | error why after =>
    rw [hrun] at hstep
    cases hharmless : harmless why after with
    | true =>
      simp only [hharmless]
      trivial
    | false =>
      simp only [hharmless]
      exact hstep

theorem fallible_makeFolder (path : String) : Fallible (makeFolder path) :=
  fun _ => ends_atTarget fun _ _ _ _ => trivial

theorem fallible_makeParts (root : String) (parts : List String) :
    Fallible (makeParts root parts) := by
  induction parts with
  | nil => exact .pure
  | cons last before ih =>
    have hlast (path : String) (harmless : Fault → Files → Bool) (c : Bool) :
        Fallible (unless c do ignoring harmless (makeFolder path)) :=
      ((fallible_makeFolder path).ignoring harmless).unless c
    intro files
    rw [makeParts, ends_bind, ends_get]
    dsimp only
    split
    · exact hlast _ _ _ files
    · exact (ih.ignoring _).andThen (hlast _ _ _) files

theorem fallible_makeFolders (path : String) : Fallible (makeFolders path) := by
  unfold makeFolders
  split
  · exact fallible_makeFolder path
  · exact fallible_makeParts _ _

theorem fallible_makeWay (path : String) : Fallible (makeWay path) := by
  unfold makeWay
  split
  · exact .pure
  · exact fallible_makeFolders _

end Files

end Questline
