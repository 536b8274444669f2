import Questline.Proofs.Dates
import Questline.Proofs.Files
import Questline.Proofs.RoundTrip
import Questline.Proofs.Shapes
import Questline.Proofs.Twins
import Questline.Proofs.Visiting
import Questline.Save

/-! Save files.  What is written of a game is read back by any engine over the same graphs: header
and state stand one behind the other, and each is read to where it ends. -/

namespace Questline

open MessagePack (Shaped Ranged Sized InRange maxLength maxNesting ranged_text ranged_int
  ranged_record_iff sized_text sized_int ranged_of_fits sized_of_fits)

namespace Save

variable {cfg : Settings} {date : Date}

theorem shaped_header (cfg : Settings) (date : Date) {room : Nat} :
    Shaped (room + 2) (header cfg date) := by
  refine .record (by simp [Assoc.keys]) ?_
  simp only [List.forall_mem_cons]
  exact ⟨.atom rfl, .atom rfl, .atom rfl, .atom rfl, List.forall_mem_nil _⟩

theorem ranged_header (h : InRange cfg.saveVersion) : Ranged (header cfg date) := by
  rw [header, ranged_record_iff]
  simp only [List.forall_mem_cons]
  exact ⟨ranged_text _, ranged_int h, ranged_text _, ranged_text _, List.forall_mem_nil _⟩

theorem sized_header (hmagic : cfg.saveMagic.utf8ByteSize < maxLength) (hdate : date.Shown) :
    Sized (header cfg date) := by
  have hwritten : date.write.utf8ByteSize < maxLength := hdate.size_write.trans_lt (by decide)
  refine .record (show 4 ≤ MessagePack.maxTable by decide) ?_ ?_
  · simp only [List.forall_mem_cons]
    exact ⟨by decide, by decide, by decide, by decide, List.forall_mem_nil _⟩
  · simp only [List.forall_mem_cons]
    exact ⟨sized_text hmagic, sized_int _, sized_text (by decide), sized_text hwritten,
      List.forall_mem_nil _⟩

/-- What a file says about itself that has been saved. -/
def written (cfg : Settings) (date : Date) (file : String) : SaveInfo :=
  { file, version := .int cfg.saveVersion, engineVersion := .text engineVersion, date }

/-- A header that was written is the one that is expected. -/
theorem checkHeader_header (cfg : Settings) (hdate : date.Shown) (file : String) :
    checkHeader cfg file (header cfg date) = .ok (written cfg date file) := by
  have hread : readInfo file (header cfg date) = .ok (written cfg date file) := by
    unfold readInfo header
    rw [Value.require_record rfl, ok_bind, Value.require_record rfl, ok_bind,
      Value.require_record rfl, ok_bind, Date.ofValue, hdate.read_write]
    rfl
  have hmagic : isExpected (.text cfg.saveMagic) (.text cfg.saveMagic) = true :=
    (Atom.exact_text _).beq_self
  have hversion : isExpected (.int cfg.saveVersion) (.int cfg.saveVersion) = true :=
    beq_self_eq_true cfg.saveVersion
  change (if !isExpected (.text cfg.saveMagic) (.text cfg.saveMagic) then _
    else if !isExpected (.int cfg.saveVersion) (.int cfg.saveVersion) then _
    else (readInfo file (header cfg date)).mapError _) = _
  rw [hmagic, hversion, hread]
  rfl

/-- What can be written into a file: dates of a clock, and settings and data that are not too
large. -/
structure Writable (cfg : Settings) (date : Date) (data : Value) : Prop where
  version : InRange cfg.saveVersion
  magic : cfg.saveMagic.utf8ByteSize < maxLength
  date : date.Shown
  ranged : Ranged data
  sized : Sized data

/-- The two parts of a file are found one behind the other. -/
theorem decode_encode {e : Engine} {fields : Table} (h : Writable cfg date (.table fields))
    (hdata : e.serialize = .ok (.table fields))
    (hshaped : Shaped (maxNesting + 1) (.table fields)) :
    ∃ bytes, encode cfg date e = .ok bytes ∧
      ∀ file, decode cfg file bytes = .ok (written cfg date file, .table fields) := by
  obtain ⟨first, hfirst, hheader⟩ := (shaped_header cfg date).decode_encode
    (ranged_header h.version) (sized_header h.magic h.date)
  obtain ⟨second, hsecond, hstate⟩ := hshaped.decode_encode h.ranged h.sized
  refine ⟨first ++ second, ?_, fun file => ?_⟩
  · rw [encode, hfirst, ok_bind, hdata, ok_bind, hsecond]
    rfl
  · have hrest := hstate []
    rw [List.append_nil] at hrest
    unfold decode
    rw [decodePart, hheader]
    change (checkHeader cfg file (header cfg date) >>= _) = _
    rw [checkHeader_header cfg h.date, ok_bind, decodePart, hrest]
    rfl

end Save

namespace Engine

variable {cfg : Settings} {e other : Engine}

/-- What can be saved is saved as a table that is taken over by any other engine over the same
graphs, and saved by it as the same table. -/
theorem Portable.restores (h : e.Portable) (hgraphs : other.session.graphs = e.session.graphs) :
    ∃ fields restored, e.serialize = .ok (.table fields) ∧
      Engine.restore (.table fields) other = .ok () restored ∧
      restored.serialize = .ok (.table fields) := by
  obtain ⟨flags, data, _, hperm, hdata, hrestore⟩ :=
    restore_serialize h.consistent.agrees h.consistent.sound h.storable hgraphs
  have hmatches : Ledger.Matches { e.session.ledger with flags } e.session.ledger :=
    ⟨hperm, rfl, rfl, rfl⟩
  have hledger : Ledger.toValue { e.session.ledger with flags } = e.session.ledger.toValue :=
    Ledger.Twin.toValue (.inr ⟨hmatches, h.storable.ledger.of_matches hmatches.symm⟩)
  obtain ⟨fields, rfl⟩ : ∃ fields, data = .table fields := by
    obtain ⟨ledger, _, hrecord⟩ := bind_eq_ok.1 hdata
    cases hrecord
    exact ⟨_, rfl⟩
  refine ⟨fields, _, hdata, hrestore, ?_⟩
  rw [← hdata]
  change (Ledger.toValue { e.session.ledger with flags } >>= fun ledger => _) =
    (e.session.ledger.toValue >>= fun ledger => _)
  rw [hledger]
  rfl

end Engine

namespace Disk

variable {cfg : Settings} {e : Engine} {d : Disk}

theorem ends_onFiles {α : Type} {step : FilesStep α} {Q : α → Files → Prop}
    {E : Fault → Files → Prop} (h : Ends step d.files Q E) :
    Ends (onFiles step) d (fun a d' => d'.saver = d.saver ∧ Q a d'.files)
      (fun why d' => E why d'.files) := by
  unfold Ends onFiles at *
  cases hrun : step d.files with
  | ok a files =>
    rw [hrun] at h
    exact ⟨rfl, h⟩
  | error why files =>
    rw [hrun] at h
    exact h

/-- Saving fails only as the files or the bytes do. -/
theorem ends_save_encode (cfg : Settings) (e : Engine) (file : Option String) (d : Disk) :
    Ends (save cfg e file) d
      (fun _ _ => ∃ bytes, Save.encode cfg d.saver.nextDate e = .ok bytes)
      (fun why _ => why.OfFiles ∨ Save.encode cfg d.saver.nextDate e = .error why) := by
  unfold save
  rw [ends_bind, ends_get, ends_bind]
  refine (ends_onFiles (Files.fallible_makeWay _ _)).mono (fun _ d' _ => ?_) fun _ _ => .inl
  rw [ends_bind, ends_modify]
  cases hencode : Save.encode cfg d.saver.nextDate e with
  | error why => exact .inr rfl
  | ok bytes =>
    dsimp only
    rw [ends_bind]
    exact (ends_onFiles (Files.ends_moveTo _ _ _)).mono (fun _ _ _ => ⟨bytes, rfl⟩) fun _ _ => .inl

/-- What there are bytes for is saved unless the files fail. -/
theorem ends_save {bytes : MessagePack.Bytes} (h : Save.encode cfg d.saver.nextDate e = .ok bytes)
    (file : Option String) : Ends (save cfg e file) d
      (fun name d' => name = file.getD d.saver.nextFile ∧ d'.files.read name = .ok bytes)
      (fun why _ => why.OfFiles) := by
  unfold save
  rw [ends_bind, ends_get, ends_bind]
  refine (ends_onFiles (Files.fallible_makeWay _ _)).mono (fun _ d' _ => ?_) fun _ _ => id
  rw [ends_bind, ends_modify, h]
  dsimp only
  rw [ends_bind]
  exact (ends_onFiles (Files.ends_moveTo _ _ _)).mono (fun _ d' hread => ⟨rfl, hread.2⟩)
    fun _ _ => id

/-- Once there is a folder for the file, all depends on the bytes. -/
theorem save_of_makeWay {file : Option String} {files : Files}
    (hway : Files.makeWay (file.getD d.saver.nextFile) d.files = .ok () files) :
    save cfg e file d =
      (match Save.encode cfg d.saver.nextDate e with
        | .error why => throw why
        | .ok bytes => do
          onFiles (Files.moveTo (file.getD d.saver.nextFile) bytes)
          return file.getD d.saver.nextFile : DiskStep String)
      { saver := { d.saver with made := d.saver.made + 1 }, files } := by
  have hfirst : onFiles (Files.makeWay (file.getD d.saver.nextFile)) d =
      .ok () { d with files } := by
    rw [onFiles, hway]
  unfold save
  rw [run_get]
  change EStateM.bind _ _ _ = _
  rw [EStateM.bind, hfirst]
  rfl

/-- Saving takes no more than bytes and files that do not fail. -/
theorem save_eq {file : Option String} {bytes : MessagePack.Bytes} {files files' : Files}
    (hencode : Save.encode cfg d.saver.nextDate e = .ok bytes)
    (hway : Files.makeWay (file.getD d.saver.nextFile) d.files = .ok () files)
    (hmove : Files.moveTo (file.getD d.saver.nextFile) bytes files = .ok () files') :
    save cfg e file d = .ok (file.getD d.saver.nextFile)
      { saver := { d.saver with made := d.saver.made + 1 }, files := files' } := by
  rw [save_of_makeWay hway, hencode]
  change EStateM.bind _ _ _ = _
  rw [EStateM.bind, onFiles, hmove]
  rfl

theorem save_eq_error {file : Option String} {why : Fault} {files : Files}
    (hencode : Save.encode cfg d.saver.nextDate e = .error why)
    (hway : Files.makeWay (file.getD d.saver.nextFile) d.files = .ok () files) :
    save cfg e file d =
      .error why { saver := { d.saver with made := d.saver.made + 1 }, files } := by
  rw [save_of_makeWay hway, hencode]
  rfl

theorem load_of_decode {file : String} {bytes : MessagePack.Bytes} {info : SaveInfo}
    {state : Value} {other restored : Engine} (hread : d.files.read file = .ok bytes)
    (hdecode : Save.decode cfg file bytes = .ok (info, state))
    (hrestore : Engine.restore state other = .ok () restored) :
    d.load cfg file other = .ok info restored := by
  unfold load
  rw [hread]
  dsimp only
  unfold Save.load
  rw [hdecode]
  change EStateM.bind _ _ _ = _
  rw [EStateM.bind, hrestore]
  rfl

end Disk

/-- Whatever a game has been through, services that were down and new games that were broken off
included, it can be saved to a file, as long as its integers are in range and it is not too large
for the format: only the files themselves can fail.  Any engine over the same graphs loads the file,
whose header is as it was written, and then it is saved as the same data. -/
theorem saved_file_loads (cfg : Settings) {graphs : List Graph} {host : Host} {clock : Clock}
    {built : Engine} (hbuilt : Engine.ofGraphs graphs host clock = .ok built)
    (hgraphs : ∀ g ∈ graphs, ∀ o ∈ g.allOutcomes, o.Named) {calls : List Call}
    (hcalls : ∀ c ∈ calls, c.Names) :
    let e := built.afterAll cfg calls
    ∃ data, e.serialize = .ok data ∧ ∀ d : Disk, Save.Writable cfg d.saver.nextDate data →
      ∃ bytes, Save.encode cfg d.saver.nextDate e = .ok bytes ∧ ∀ file,
        (∃ name d', Disk.save cfg e file d = .ok name d' ∧ name = file.getD d.saver.nextFile ∧
          ∀ other : Engine, other.session.graphs = e.session.graphs →
            ∃ restored,
              d'.load cfg name other = .ok (Save.written cfg d.saver.nextDate name) restored ∧
              restored.serialize = .ok data) ∨
        ∃ fault path d', Disk.save cfg e file d = .error (.file fault path) d' := by
  intro e
  have hportable : e.Portable := (Engine.Portable.ofGraphs hgraphs hbuilt).afterAll hcalls
  obtain ⟨fields, _, hdata, _⟩ := hportable.restores (rfl : e.session.graphs = _)
  have hshaped : Shaped (maxNesting + 1) (.table fields) := Engine.shaped_serialize
    hportable.storable.ledger hportable.consistent.sound.distinct hportable.packable hdata
  refine ⟨.table fields, hdata, fun d hwritable => ?_⟩
  obtain ⟨bytes, hbytes, hdecode⟩ := Save.decode_encode hwritable hdata hshaped
  refine ⟨bytes, hbytes, fun file => ?_⟩
  have hsave := Disk.ends_save hbytes file
  unfold Ends at hsave
  cases hrun : Disk.save cfg e file d with
  | error why d' =>
    rw [hrun] at hsave
    obtain ⟨fault, path, rfl⟩ := hsave
    exact .inr ⟨fault, path, d', rfl⟩
  | ok name d' =>
    rw [hrun] at hsave
    refine .inl ⟨name, d', rfl, hsave.1, fun other hother => ?_⟩
    obtain ⟨fields', restored, hdata', hrestore, hagain⟩ := hportable.restores hother
    cases hdata.symm.trans hdata'
    exact ⟨restored, Disk.load_of_decode hsave.2 (hdecode name) hrestore, hagain⟩

/-- In a folder without files a file can be made. -/
theorem Files.moveTo_empty (bytes : MessagePack.Bytes) :
    moveTo "s" bytes {} = .ok () { files := [(["s"], bytes)] } := by
  have hsplit : "s".splitOn "/" = ["s"] := by
    unfold String.splitOn
    rw [if_neg (by decide), String.splitOnAux, if_neg (by decide), if_neg (by decide),
      String.splitOnAux, if_pos (by decide)]
    rfl
  have hpath : checkPath "s" = .ok () := by
    rw [checkPath, if_neg (by simp), if_neg (by decide), if_neg (by decide)]
  have hstart : start {} "s" = [] := by
    unfold start
    split <;> rfl
  have htarget : target {} "s" = .ok ⟨[], some "s", false⟩ := by
    rw [target, hpath, hsplit, hstart]
    rfl
  rw [moveTo, atTarget, htarget]
  rfl

/-- The patrol has been walked once and is saved in the folder that one is in, and the file is
loaded where nothing has happened yet. -/
theorem saved_file_loads_patrol :
    let d : Disk := { saver := {
      folder := "saves", time := fun _ => 0
      date := fun _ => { year := 2024, month := 1, day := 2 } } }
    let calls : List Call := [.newGame false, .start "patrol", .choose "patrol" "walk",
      .choose "patrol" "again",
      .external [.data (.record [("kind", "grant_experience"), ("amount", .int 5)])] "sparring"]
    let e := (Engine.fresh .patrol {}).afterAll .builtIn calls
    ∃ graphs data d' restored, Content.load .builtIn .patrol [] = .ok graphs ∧
      Engine.ofGraphs graphs {} (.ticking 0 1) = .ok (.fresh .patrol {}) ∧
      e.serialize = .ok data ∧ Disk.save .builtIn e (some "s") d = .ok "s" d' ∧
      d'.load .builtIn "s" (.fresh .patrol {}) =
        .ok (Save.written .builtIn d.saver.nextDate "s") restored ∧
      restored.serialize = .ok data := by
  intro d calls e
  obtain ⟨graphs, hload, hbuilt⟩ := Engine.ofGraphs_fresh {}
    (show (Content.load .builtIn .patrol []).toOption.isSome = true by decide +kernel)
  have hfits : (match e.serialize with
    | .ok data => MessagePack.fits data
    | .error _ => false) = true := by decide +kernel
  obtain ⟨data, hdata, hsaves⟩ := saved_file_loads .builtIn hbuilt (Loaded.named ⟨_, _, hload⟩)
    (show ∀ c ∈ calls, c.Names by simp [calls, Call.Names])
  rw [hdata] at hfits
  obtain ⟨bytes, hbytes, hsaves⟩ := hsaves d {
    version := by decide, magic := by decide, date := by constructor <;> decide
    ranged := ranged_of_fits hfits, sized := sized_of_fits hfits }
  have hsaved : Disk.save .builtIn e (some "s") d = .ok "s" _ :=
    Disk.save_eq hbytes (by rw [Files.makeWay, if_pos (by decide)]; rfl)
      (Files.moveTo_empty bytes)
  have hgraphs := (Engine.Consistent.ofGraphs hbuilt).graphs_afterAll .builtIn
    (show ∀ c ∈ calls, ∀ more, c ≠ .register more by simp [calls])
  rcases hsaves (some "s") with ⟨name, d', hrun, hname, hloads⟩ | ⟨_, _, _, hfailed⟩
  · obtain rfl : name = "s" := hname
    obtain ⟨restored, hloaded, hagain⟩ := hloads _ hgraphs.symm
    exact ⟨graphs, data, d', restored, hload, hbuilt, hdata, hrun, hloaded, hagain⟩
  · cases hsaved.symm.trans hfailed

end Questline
