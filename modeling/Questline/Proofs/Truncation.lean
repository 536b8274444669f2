import Questline.Proofs.SaveFiles
import Questline.Proofs.Unpacking

/-! Save files that are cut off.  Wherever the end of a file is missing, in its header or in the
state behind it, one of the two cannot be read, and the file is turned down. -/

namespace Questline

namespace Save

open MessagePack (Bytes)

variable {cfg : Settings} {file : String}

theorem decodePart_eq_error {part : String} {bytes : Bytes} {why : MessagePack.DecodeFault}
    (h : MessagePack.decode bytes = .error why) :
    decodePart part bytes = .error (partFault part why) := by
  rw [decodePart, h]
  rfl

theorem decodePart_eq_ok {part : String} {bytes : Bytes} {p : Value × Bytes}
    (h : MessagePack.decode bytes = .ok p) : decodePart part bytes = .ok p := by
  rw [decodePart, h]
  rfl

/-- More bytes make no difference to a file that is not cut off. -/
theorem decode_append (cfg : Settings) (file : String) (cut more : Bytes) :
    (∃ part, decode cfg file cut = .error (.refused (.truncated part))) ∨
      decode cfg file (cut ++ more) = decode cfg file cut := by
  unfold decode
  rcases MessagePack.Stable.decode cut more with hout | hsame
  · exact .inl ⟨"header", by rw [decodePart_eq_error hout]; rfl⟩
  cases hcut : MessagePack.decode cut with
  | error why =>
    rw [hcut] at hsame
    rw [decodePart_eq_error hcut, decodePart_eq_error hsame]
    exact .inr rfl
  | ok p =>
    rw [hcut] at hsame
    rw [decodePart_eq_ok hcut, decodePart_eq_ok hsame, ok_bind, ok_bind]
    dsimp only
    cases checkHeader cfg file p.1 with
    | error why => exact .inr rfl
    | ok info =>
      rw [ok_bind, ok_bind]
      rcases MessagePack.Stable.decode p.2 more with hout | hsame
      · exact .inl ⟨"narrative state", by rw [decodePart_eq_error hout]; rfl⟩
      cases hrest : MessagePack.decode p.2 with
      | error why =>
        rw [hrest] at hsame
        rw [decodePart_eq_error hrest, decodePart_eq_error hsame]
        exact .inr rfl
      | ok q =>
        rw [hrest] at hsame
        rw [decodePart_eq_ok hrest, decodePart_eq_ok hsame]
        exact .inr rfl

theorem partFault_refused (part : String) {why : MessagePack.DecodeFault} (h : why ≠ .badKey) :
    ∃ refusal, partFault part why = .refused refusal := by
  cases why with
  | badKey => exact absurd rfl h
  | _ => exact ⟨_, rfl⟩

theorem checkHeader_refused {v : Value} {why : SaveFault}
    (h : checkHeader cfg file v = .error why) : ∃ refusal, why = .refused refusal := by
  unfold checkHeader at h
  split at h
  next fields =>
    split at h
    · cases h
      exact ⟨_, rfl⟩
    split at h
    · cases h
      exact ⟨_, rfl⟩
    cases hread : readInfo file (.table fields) with
    | error fault =>
      rw [hread] at h
      cases h
      exact ⟨_, rfl⟩
    | ok info =>
      rw [hread] at h
      cases h
  next =>
    cases h
    exact ⟨_, rfl⟩

theorem decode_of_bad_header {bytes : Bytes} {why : MessagePack.DecodeFault} (hkey : why ≠ .badKey)
    (h : MessagePack.decode bytes = .error why) :
    ∃ refusal, decode cfg file bytes = .error (.refused refusal) := by
  obtain ⟨refusal, hrefusal⟩ := partFault_refused "header" hkey
  refine ⟨refusal, ?_⟩
  unfold decode
  rw [decodePart_eq_error h, hrefusal]
  rfl

theorem decode_of_bad_state {bytes : Bytes} {p : Value × Bytes} {why : MessagePack.DecodeFault}
    (hheader : MessagePack.decode bytes = .ok p) (hkey : why ≠ .badKey)
    (h : MessagePack.decode p.2 = .error why) :
    ∃ refusal, decode cfg file bytes = .error (.refused refusal) := by
  unfold decode
  rw [decodePart_eq_ok hheader, ok_bind]
  dsimp only
  cases hcheck : checkHeader cfg file p.1 with
  | error fault =>
    obtain ⟨refusal, rfl⟩ := checkHeader_refused hcheck
    exact ⟨refusal, rfl⟩
  | ok info =>
    obtain ⟨refusal, hrefusal⟩ := partFault_refused "narrative state" hkey
    refine ⟨refusal, ?_⟩
    rw [ok_bind, decodePart_eq_error h, hrefusal]
    rfl

/-- A file that is cut off is turned down, be it cut off in its header or in the state behind it. -/
theorem decode_cut {date : Date} {e : Engine} {cut more : Bytes} (cfg' : Settings)
    (file : String) (h : encode cfg date e = .ok (cut ++ more)) (hmore : more ≠ []) :
    ∃ why, decode cfg' file cut = .error (.refused why) := by
  obtain ⟨first, hfirst, h⟩ := bind_eq_ok.1 h
  obtain ⟨data, _, h⟩ := bind_eq_ok.1 h
  obtain ⟨second, hsecond, h⟩ := bind_eq_ok.1 h
  have hparts : first ++ second = cut ++ more := Except.ok.inj h
  -- the header is whole, and the state behind it is cut off, perhaps to nothing
  have behind {inner rest : Bytes} (hrest : second = inner ++ rest) (hsome : rest ≠ []) :
      ∃ why, decode cfg' file (first ++ inner) = .error (.refused why) := by
    obtain ⟨why, hkey, hstate⟩ := MessagePack.decode_cut (hrest ▸ hsecond) hsome
    rcases MessagePack.decode_packed hfirst inner with ⟨v, hheader⟩ | ⟨why', hkey', hheader⟩
    · exact decode_of_bad_state hheader hkey hstate
    · exact decode_of_bad_header hkey' hheader
  rcases List.append_eq_append_iff.1 hparts with ⟨inner, rfl, hrest⟩ | ⟨missing, hfirst', hmore'⟩
  · exact behind hrest hmore
  · cases missing with
    | nil =>
      rw [List.append_nil] at hfirst'
      rw [List.nil_append] at hmore'
      rw [← hfirst', ← List.append_nil first]
      exact behind (List.nil_append second).symm (hmore' ▸ hmore)
    | cons b missing =>
      obtain ⟨why, hkey, hheader⟩ :=
        MessagePack.decode_cut (hfirst' ▸ hfirst) (List.cons_ne_nil b missing)
      exact decode_of_bad_header hkey hheader

end Save

namespace Disk

variable {cfg : Settings} {e : Engine} {d d' : Disk}

theorem encode_of_save {file : Option String} {name : String}
    (h : save cfg e file d = .ok name d') :
    ∃ bytes, Save.encode cfg d.saver.nextDate e = .ok bytes := by
  exact (ends_save_encode cfg e file d).of_ok h

theorem load_of_refused {file : String} {bytes : MessagePack.Bytes} {why : SaveRefusal}
    {other : Engine} (hread : d.files.read file = .ok bytes)
    (hdecode : Save.decode cfg file bytes = .error (.refused why)) :
    d.load cfg file other = .error (.refused why) other := by
  unfold load
  rw [hread]
  dsimp only
  unfold Save.load
  rw [hdecode]
  rfl

end Disk

/-- A save file of which any bytes are missing at its end, and be they all, is turned down by every
engine, which stays as it is.  Where the whole file would be taken for a save, it is turned down
for being cut off. -/
theorem cut_off_save_refused {cfg : Settings} {e : Engine} {file : Option String} {d d' : Disk}
    {name : String} (h : Disk.save cfg e file d = .ok name d') :
    ∃ bytes, d'.files.read name = .ok bytes ∧ ∀ cut, cut <+: bytes → cut ≠ bytes →
      ∀ (cfg' : Settings) (other : Engine) (there : Disk) (path : String),
        there.files.read path = .ok cut →
        ∃ why, there.load cfg' path other = .error (.refused why) other ∧
          ((∃ found, Save.decode cfg' path bytes = .ok found) → ∃ part, why = .truncated part) := by
  obtain ⟨bytes, hencode⟩ := Disk.encode_of_save h
  have hsaved := Disk.ends_save hencode file
  unfold Ends at hsaved
  rw [h] at hsaved
  refine ⟨bytes, hsaved.2, ?_⟩
  rintro cut ⟨more, rfl⟩ hcut cfg' other there path hread
  have hmore : more ≠ [] := fun hnone => hcut (by rw [hnone, List.append_nil])
  obtain ⟨why, hdecode⟩ := Save.decode_cut cfg' path hencode hmore
  refine ⟨why, Disk.load_of_refused hread hdecode, fun ⟨found, hfound⟩ => ?_⟩
  rcases Save.decode_append cfg' path cut more with ⟨part, hpart⟩ | hsame
  · cases hdecode.symm.trans hpart
    exact ⟨part, rfl⟩
  · rw [hfound, hdecode] at hsame
    cases hsame

/-- The patrol that has been walked is saved, and the last byte of the file gets lost. -/
theorem cut_off_save_refused_patrol :
    let d : Disk := { saver := {
      folder := "saves", time := fun _ => 0
      date := fun _ => { year := 2024, month := 1, day := 2 } } }
    let e := (Engine.fresh .patrol {}).afterAll .builtIn [.newGame false, .start "patrol",
      .choose "patrol" "walk", .choose "patrol" "again"]
    ∃ d' bytes why, Disk.save .builtIn e (some "s") d = .ok "s" d' ∧
      d'.files.read "s" = .ok bytes ∧ bytes ≠ [] ∧
      Disk.load { d with files := { files := [(["s"], bytes.dropLast)] } } .builtIn "s"
        (.fresh .patrol {}) = .error (.refused why) (.fresh .patrol {}) := by
  intro d e
  have hencoded : (match Save.encode .builtIn d.saver.nextDate e with
    | .ok bytes => !bytes.isEmpty
    | .error _ => false) = true := by decide +kernel
  cases hbytes : Save.encode .builtIn d.saver.nextDate e with
  | error why =>
    rw [hbytes] at hencoded
    cases hencoded
  | ok bytes =>
    rw [hbytes] at hencoded
    have hsome : bytes ≠ [] := by simpa using hencoded
    have hsaved : Disk.save .builtIn e (some "s") d = .ok "s" _ :=
      Disk.save_eq hbytes (by rw [Files.makeWay, if_pos (by decide)]; rfl)
        (Files.moveTo_empty bytes)
    have hread (bytes : MessagePack.Bytes) :
        Files.read { files := [(["s"], bytes)] } "s" = .ok bytes := by
      have hmoved := Files.ends_moveTo "s" bytes {}
      unfold Ends at hmoved
      rw [Files.moveTo_empty] at hmoved
      exact hmoved
    obtain ⟨bytes', hread', hcut⟩ := cut_off_save_refused hsaved
    cases hread'.symm.trans (hread bytes)
    have hshorter : bytes.dropLast ≠ bytes := fun he => by
      have hlength := congrArg List.length he
      have hpositive := List.length_pos_iff.2 hsome
      rw [List.length_dropLast] at hlength
      omega
    obtain ⟨why, hload, _⟩ := hcut _ (List.dropLast_prefix bytes) hshorter .builtIn
      (.fresh .patrol {}) { d with files := { files := [(["s"], bytes.dropLast)] } } "s" (hread _)
    exact ⟨_, bytes, why, hsaved, hread bytes, hsome, hload⟩

end Questline
