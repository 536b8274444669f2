import Questline.Proofs.History
import Questline.Proofs.SaveFiles
import Questline.Proofs.Scores

/-! The integers of a save.  Scores keep within the bounds of the settings, and entries are numbered
from one.  Only the amounts of outcomes are noted as they were authored or reported, however large,
and a game cannot be saved while its log holds one that there are no bytes for. -/

namespace Questline

namespace MessagePack

/-- Packing minds a condition: it gives no bytes where the condition fails, and finds nothing too
large where it holds. -/
structure Minds {α : Type} (P : Prop) (x : Except Fault α) : Prop where
  ok : ∀ a, x = .ok a → P
  tooLarge : x = .error .tooLarge → ¬ P

namespace Minds

variable {α β : Type} {P Q : Prop}

theorem pure (a : α) : Minds True (.ok a : Except Fault α) := ⟨fun _ _ => trivial, nofun⟩

theorem of_error (why : Fault) (h : why ≠ .tooLarge) : Minds P (.error why : Except Fault α) :=
  ⟨nofun, fun he => absurd (Except.error.inj he) h⟩

theorem congr {x : Except Fault α} (h : Minds P x) (hPQ : P ↔ Q) : Minds Q x :=
  ⟨fun a ha => hPQ.1 (h.ok a ha), fun he hQ => h.tooLarge he (hPQ.2 hQ)⟩

theorem bind {x : Except Fault α} {f : α → Except Fault β} (hx : Minds P x)
    (hf : ∀ a, Minds Q (f a)) : Minds (P ∧ Q) (x >>= f) := by
  refine ⟨fun b hb => ?_, fun he ⟨hP, hQ⟩ => ?_⟩
  · obtain ⟨a, ha, hb⟩ := bind_eq_ok.1 hb
    exact ⟨hx.ok a ha, (hf a).ok b hb⟩
  · rcases bind_eq_error.1 he with he | ⟨a, _, he⟩
    · exact hx.tooLarge he hP
    · exact (hf a).tooLarge he hQ

theorem map {x : Except Fault α} (hx : Minds P x) (f : α → β) : Minds P (x.map f) :=
  ⟨fun _ hb => (map_eq_ok.1 hb).elim fun a ha => hx.ok a ha.1,
    fun he => hx.tooLarge (map_eq_error.1 he)⟩

end Minds

theorem minds_encodeInt (n : Int) : Minds (InRange n) (encodeInt n) := by
  by_cases h : InRange n
  · obtain ⟨bytes, hbytes, _⟩ := h.encodeInt
    exact hbytes ▸ (Minds.pure bytes).congr (iff_of_true trivial h)
  · rw [encodeInt_of_not_inRange h]
    exact ⟨nofun, fun _ => h⟩

/-- What is too long is not called too large. -/
theorem minds_encodeLength (kind : String) (mark8 : Option UInt8) (mark16 mark32 : UInt8)
    (n : Nat) : Minds True (encodeLength kind mark8 mark16 mark32 n) := by
  by_cases h : n < maxLength
  · obtain ⟨mark, width, hlength, _⟩ := encodeLength_eq_ok kind mark8 mark16 mark32 h
    exact hlength ▸ .pure _
  · rw [encodeLength_of_long h]
    exact .of_error (.refused (.tooLong kind)) nofun

theorem minds_textHead (n : Nat) : Minds True (textHead n) := by
  unfold textHead
  split
  · exact .pure _
  · exact minds_encodeLength ..

theorem minds_listHead (n : Nat) : Minds True (listHead n) := by
  unfold listHead
  split
  · exact .pure _
  · exact minds_encodeLength ..

theorem minds_tableHead (n : Nat) : Minds True (tableHead n) := by
  unfold tableHead
  split
  · exact .pure _
  · exact minds_encodeLength ..

theorem minds_extensionHead (code : UInt8) (n : Nat) : Minds True (extensionHead code n) := by
  unfold extensionHead
  iterate 5
    split
    · exact .pure _
  exact (minds_encodeLength ..).map _

theorem minds_encodeAtom (a : Atom) : Minds (Ranged (.atom a)) (encodeAtom a) := by
  have unranged {a : Atom} {x : Except Fault Bytes} (h : Minds True x)
      (ha : ∀ n, a ≠ .int n) : Minds (Ranged (.atom a)) x := by
    refine h.congr (iff_of_true trivial fun n hn => ?_)
    cases hn
    exact absurd rfl (ha n)
  cases a with
  | int n => exact (minds_encodeInt n).congr ranged_int_iff.symm
  | bool b => cases b <;> exact unranged (.pure _) nofun
  | null | float => exact unranged (.pure _) nofun
  | text s => exact unranged ((minds_textHead _).map _) nofun
  | bytes b => exact unranged ((minds_encodeLength ..).map _) nofun
  | extension | moment => exact unranged ((minds_extensionHead ..).map _) nofun

theorem minds_encodeAtomWithin (room : Nat) (a : Atom) :
    Minds (Ranged (.atom a)) (encodeAtomWithin room a) := by
  unfold encodeAtomWithin
  split
  · exact .of_error .tooDeep nofun
  · exact minds_encodeAtom a

section Parts

variable {room : Nat} (hminds : ∀ v, Minds (Ranged v) (encodeWithin room v))
include hminds

theorem minds_encodeItems (items : List Value) :
    Minds (∀ v ∈ items, Ranged v) (encodeItems room items) := by
  induction items with
  | nil => exact (Minds.pure []).congr (iff_of_true trivial (List.forall_mem_nil _))
  | cons v rest ih =>
    rw [encodeItems]
    refine ((hminds v).bind fun first => ih.map (first ++ ·)).congr ?_
    rw [List.forall_mem_cons]

theorem minds_encodeFields (fields : Table) :
    Minds (∀ p ∈ fields, Ranged (.atom p.1) ∧ Ranged p.2) (encodeFields room fields) := by
  induction fields with
  | nil => exact (Minds.pure []).congr (iff_of_true trivial (List.forall_mem_nil _))
  | cons p rest ih =>
    obtain ⟨k, v⟩ := p
    rw [encodeFields]
    refine ((minds_encodeAtomWithin room k).bind fun key => (hminds v).bind fun value =>
      ih.map (key ++ value ++ ·)).congr ?_
    rw [List.forall_mem_cons, and_assoc]

end Parts

theorem minds_encodeWithin (room : Nat) (v : Value) : Minds (Ranged v) (encodeWithin room v) := by
  induction room generalizing v with
  | zero => cases v <;> exact .of_error .tooDeep nofun
  | succ room ih =>
    cases v with
    | atom a => exact minds_encodeAtomWithin _ a
    | list items =>
      rw [encodeWithin, if_neg (by omega)]
      refine ((minds_listHead items.length).bind fun head =>
        (minds_encodeItems ih items).map (head ++ ·)).congr ?_
      rw [true_and, ranged_list_iff]
    | table fields =>
      rw [encodeWithin, if_neg (by omega)]
      refine ((minds_tableHead fields.length).bind fun head =>
        (minds_encodeFields ih fields).map (head ++ ·)).congr ?_
      rw [true_and, ranged_table_iff]

theorem ranged_ofText? (s : Option String) : Ranged (.ofText? s) := by
  cases s <;> nofun

end MessagePack

open MessagePack (Minds Ranged InRange ranged_text ranged_ofText? ranged_int ranged_int_iff
  ranged_list_iff ranged_table_iff ranged_record_iff minds_encodeWithin)

/-- Settings whose own numbers there are bytes for. -/
structure Settings.Ranged (cfg : Settings) : Prop where
  version : InRange cfg.saveVersion
  reputation : InRange cfg.reputation.min ∧ InRange cfg.reputation.max
  relationship : InRange cfg.relationship.min ∧ InRange cfg.relationship.max

theorem Bounds.Holds.inRange {b : Bounds} {n : Int} (h : b.Holds n)
    (hb : InRange b.min ∧ InRange b.max) : InRange n :=
  ⟨hb.1.1.trans h.1, h.2.trans_lt hb.2.2⟩

namespace Ledger

theorem ranged_scoresTable {scores : Assoc String Int} (h : ∀ p ∈ scores, InRange p.2) :
    Ranged (scoresTable scores) :=
  ranged_record_iff.2 (List.forall_mem_map.2 fun p hp => ranged_int (h p hp))

theorem Tidy.ranged_toValue {cfg : Settings} {l : Ledger} (h : l.Tidy) (hbounded : l.Bounded cfg)
    (hcfg : cfg.Ranged) {v : Value} (hv : l.toValue = .ok v) : Ranged v := by
  obtain ⟨flags, hflags, hv⟩ := bind_eq_ok.1 hv
  cases hv
  rw [ranged_record_iff]
  simp only [List.forall_mem_cons]
  refine ⟨ranged_list_iff.2 (List.forall_mem_map.2 fun a ha => ?_),
    ranged_scoresTable fun p hp => (hbounded.reputation p hp).inRange hcfg.reputation,
    ranged_table_iff.2 (List.forall_mem_map.2 fun p hp => ⟨?_, nofun⟩),
    ranged_scoresTable fun p hp => (hbounded.relationship p hp).inRange hcfg.relationship,
    List.forall_mem_nil _⟩
  · obtain ⟨s, rfl⟩ := h.texts a ((Atom.perm_of_sort hflags).subset ha)
    exact ranged_text s
  · obtain ⟨g, hg⟩ := h.graphs p.1 (List.mem_map_of_mem hp)
    exact hg ▸ ranged_text g

end Ledger

/-- An outcome that has been read under a text as its name. -/
def Outcome.IsRead (o : Outcome) : Prop :=
  ∃ (v : Value) (name : String), Outcome.read v (some (.text name)) = .ok o

/-- Nothing in an outcome as data can be out of range but its amount. -/
theorem Outcome.IsRead.ranged_toTable_iff {o : Outcome} (h : o.IsRead) :
    Ranged (.table o.toTable) ↔ InRange o.amount := by
  obtain ⟨v, name, hread⟩ := h
  have only (field : String) {w : Value} (hw : Ranged w) :
      ∀ p ∈ [(Atom.text field, w)], Ranged (.atom p.1) ∧ Ranged p.2 :=
    List.forall_mem_singleton.2 ⟨ranged_text field, hw⟩
  rw [ranged_table_iff]
  unfold toTable
  simp only [List.forall_mem_append]
  refine ⟨fun ⟨⟨⟨_, hamount⟩, _⟩, _⟩ => ?_, fun hamount => ⟨⟨⟨⟨?_, ?_⟩, ?_⟩, ?_⟩, ?_⟩⟩
  · cases hfield : o.kind.amountField? with
    | none =>
      rw [(regular_of_read hread).unmeasured hfield]
      decide
    | some p =>
      rw [hfield] at hamount
      exact ranged_int_iff.1 (hamount _ (List.mem_singleton.2 rfl)).2
  · exact only _ (ranged_text _)
  · split
    · exact only _ (ranged_ofText? _)
    · exact List.forall_mem_nil _
  · split
    · exact only _ (ranged_int hamount)
    · exact List.forall_mem_nil _
  · split
    · exact only _ nofun
    · exact List.forall_mem_nil _
  · split
    · exact only _ (id_of_read hread ▸ ranged_text name)
    · exact List.forall_mem_nil _

theorem Entry.ranged_toValue_iff (p : Pending) (id : Int) (time : Float) :
    Ranged (Step.entryOf p id time).toValue ↔
      InRange id ∧ ∀ t ∈ p.outcomes, Ranged (.table t) := by
  unfold toValue Step.entryOf
  rw [ranged_record_iff]
  simp only [List.forall_mem_cons, ranged_int_iff, ranged_list_iff, List.forall_mem_map]
  refine ⟨fun ⟨hid, _, _, _, _, _, houtcomes, _⟩ => ⟨hid, houtcomes⟩, fun ⟨hid, houtcomes⟩ => ?_⟩
  exact ⟨hid, ranged_text _, nofun, ranged_ofText? _, ranged_ofText? _, ranged_ofText? _,
    houtcomes, fun _ _ => ⟨ranged_text _, ranged_text _, List.forall_mem_nil _⟩,
    ranged_ofText? _, List.forall_mem_nil _⟩

namespace EventLog

/-- The entries are numbered from one, and all of them have been written by sessions. -/
def Counted (log : EventLog) : Prop :=
  ∀ (n : Nat) (e : Entry), log.entries[n]? = some e → ∃ p time, e = Step.entryOf p (n + 1) time

theorem counted_empty : empty.Counted := nofun

theorem Counted.nextId {log : EventLog} (h : log.Counted) :
    log.nextId = log.entries.length + 1 := by
  unfold EventLog.nextId
  cases hlast : log.entries.getLast? with
  | none =>
    rw [List.getLast?_eq_none_iff.1 hlast]
    rfl
  | some last =>
    rw [List.getLast?_eq_getElem?] at hlast
    obtain ⟨p, time, rfl⟩ := h _ _ hlast
    have := (List.getElem?_eq_some_iff.1 hlast).1
    change ((log.entries.length - 1 : Nat) : Int) + 1 + 1 = _
    omega

theorem Counted.of_mem {log : EventLog} (h : log.Counted) {e : Entry} (he : e ∈ log.entries) :
    ∃ n < log.entries.length, ∃ p time, e = Step.entryOf p (n + 1 : Nat) time := by
  obtain ⟨n, hn⟩ := List.getElem?_of_mem he
  obtain ⟨p, time, rfl⟩ := h n e hn
  exact ⟨n, (List.getElem?_eq_some_iff.1 hn).1, p, time, rfl⟩

/-- A log is in range if there are bytes for the number of its entries and for what they note. -/
theorem Counted.ranged_iff {log : EventLog} (h : log.Counted) : Ranged log.toValue ↔
    InRange log.entries.length ∧ ∀ t ∈ log.noted, Ranged (.table t) := by
  unfold toValue noted
  rw [ranged_list_iff, List.forall_mem_map]
  refine ⟨fun hall => ⟨?_, fun t ht => ?_⟩, fun ⟨hlength, hnoted⟩ e he => ?_⟩
  · rcases Nat.eq_zero_or_pos log.entries.length with hnone | hsome
    · rw [hnone]
      decide
    · -- the last number is how many there are
      have hlast := List.getElem_mem (l := log.entries) (Nat.sub_lt hsome Nat.one_pos)
      obtain ⟨p, time, heq⟩ := h _ _ (List.getElem?_eq_getElem (Nat.sub_lt hsome Nat.one_pos))
      have hid := ((Entry.ranged_toValue_iff p _ time).1 (heq ▸ hall _ hlast)).1
      rwa [show ((log.entries.length - 1 : Nat) : Int) + 1 = log.entries.length by omega] at hid
  · obtain ⟨e, he, ht⟩ := List.mem_flatMap.1 ht
    obtain ⟨n, _, p, time, rfl⟩ := h.of_mem he
    exact ((Entry.ranged_toValue_iff p _ time).1 (hall _ he)).2 t ht
  · obtain ⟨n, hn, p, time, rfl⟩ := h.of_mem he
    refine (Entry.ranged_toValue_iff p _ time).2 ⟨?_, fun t ht =>
      hnoted t (List.mem_flatMap.2 ⟨_, he, ht⟩)⟩
    unfold InRange at hlength ⊢
    omega

end EventLog

theorem Session.lasting_counted (cfg : Settings) : Lasting cfg fun s => s.log.Counted := by
  refine Lasting.of_closed (H := fun log _ => log.Counted) fun s p h n e he => ?_
  change (s.log.entries ++ [s.entry p])[n]? = some e at he
  rcases Nat.lt_or_ge n s.log.entries.length with hn | hn
  · rw [List.getElem?_append_left hn] at he
    exact h n e he
  · rw [List.getElem?_append_right hn, List.getElem?_singleton] at he
    split at he
    next hzero =>
      cases he
      have hn : n = s.log.entries.length := by omega
      exact ⟨p, s.entryTime, by rw [entry, h.nextId, hn]⟩
    next => cases he

/-- All that is on record are outcomes of some kind. -/
def Session.Notes (P : Outcome → Prop) (s : Session) : Prop :=
  ∀ n ∈ s.noted, ∃ o : Outcome, P o ∧ n = o.toTable

namespace Session.Notes

variable {cfg : Settings} {reported P : Outcome → Prop} {s t : Session}

theorem run (h : s.Notes P) (hreported : ∀ o, reported o → P o)
    (hgraphs : ∀ g ∈ s.graphs, ∀ o ∈ g.allOutcomes, P o) {a : Act} (ha : a.Lawful reported s) :
    (a.run cfg s).Notes P := by
  unfold Notes
  rw [(Act.record_run cfg ha).1, List.forall_mem_append]
  refine ⟨h, fun n hn => ?_⟩
  cases a with
  | applies c o =>
    cases List.mem_singleton.1 hn
    rcases ha.2.stands with ho | ⟨g, hg, ho⟩
    · exact ⟨o, hreported o ho, rfl⟩
    · exact ⟨o, hgraphs g hg o ho, rfl⟩
  | _ => cases hn

theorem course (h : s.Notes P) (hreported : ∀ o, reported o → P o)
    (hgraphs : ∀ g ∈ s.graphs, ∀ o ∈ g.allOutcomes, P o) {acts : List Act}
    (hc : Course cfg reported s acts t) : t.Notes P := by
  refine (hc.keeps (I := fun u => u.Notes P ∧ u.graphs = s.graphs) (fun a u hu ha => ?_)
    ⟨h, rfl⟩).1
  exact ⟨hu.1.run hreported (hu.2 ▸ hgraphs) ha, (Act.graphs_run ha).trans hu.2⟩

end Session.Notes

/-- A call that brings in nothing but outcomes as data. -/
def Call.BringsData : Call → Prop
  | .external reports _ => ∀ r ∈ reports, ∃ v, r = .data v
  | .register _ | .restore _ => False
  | _ => True

/-- An outcome that stands in one of the graphs of a game or is reported by one of its calls. -/
def Outcome.Occurs (graphs : List Graph) (calls : List Call) (o : Outcome) : Prop :=
  (∃ g ∈ graphs, o ∈ g.allOutcomes) ∨ ∃ c ∈ calls, c.Reports o

theorem Outcome.Occurs.isRead {cfg : Settings} {graphs : List Graph} {calls : List Call}
    {o : Outcome} (hgraphs : Loaded cfg graphs) (hcalls : ∀ c ∈ calls, c.BringsData)
    (h : o.Occurs graphs calls) : o.IsRead := by
  rcases h with ⟨g, hg, ho⟩ | ⟨c, hc, reports, source, outcomes, rfl, hread, ho⟩
  · exact hgraphs.read_outcome g hg o ho
  · rcases Engine.of_readReports hread o ho with hready | ⟨v, name, _, hread⟩
    · obtain ⟨_, hdata⟩ := hcalls _ hc _ hready
      cases hdata
    · exact ⟨v, name, hread⟩

namespace Engine

variable {cfg : Settings} {graphs : List Graph} {e : Engine}

theorem Consistent.notes_afterAll (h : e.Consistent graphs) {P : Outcome → Prop}
    (hgraphs : ∀ g ∈ e.session.graphs, ∀ o ∈ g.allOutcomes, P o) {calls : List Call}
    (hdata : ∀ c ∈ calls, c.BringsData) (hreported : ∀ c ∈ calls, ∀ o, c.Reports o → P o)
    (hnotes : e.session.Notes P) : (e.afterAll cfg calls).session.Notes P := by
  induction calls generalizing e with
  | nil => exact hnotes
  | cons c rest ih =>
    rw [List.forall_mem_cons] at hdata hreported
    have hsame : (c.after cfg e).session.graphs = e.session.graphs :=
      h.graphs_after cfg fun more hc => by
        rw [hc] at hdata
        exact hdata.1
    refine ih (h.after c) (hsame ▸ hgraphs) hdata.2 hreported.2 ?_
    cases h.passes cfg c with
    | plays _ hcourse => exact hnotes.course hreported.1 hgraphs hcourse
    | aside _ hsession => exact hsession ▸ hnotes
    | begins _ hcourse =>
      have hforgotten : e.forget.session.Notes P := fun n hn =>
        hnotes n (List.mem_append_right _ hn)
      exact hforgotten.course hreported.1 (graphs_forget e ▸ hgraphs) hcourse
    | resumes hcall =>
      rw [hcall] at hdata
      exact hdata.1.elim

/-- The integers of a save are those of its log, as far as they can be out of range. -/
theorem ranged_serialize_iff (hledger : e.session.ledger.Tidy)
    (hbounded : e.session.ledger.Bounded cfg) (hcfg : cfg.Ranged) {data : Value}
    (hdata : e.serialize = .ok data) : Ranged data ↔ Ranged e.session.log.toValue := by
  obtain ⟨ledger, hv, hdata⟩ := bind_eq_ok.1 hdata
  cases hdata
  rw [ranged_record_iff]
  simp only [List.forall_mem_cons]
  refine ⟨fun ⟨_, _, _, _, hlog, _⟩ => hlog, fun hlog => ?_⟩
  refine ⟨hledger.ranged_toValue hbounded hcfg hv, ?_, ?_, ?_, hlog, ?_, List.forall_mem_nil _⟩
  · exact ranged_record_iff.2 (List.forall_mem_map.2 fun _ _ => ranged_text _)
  · exact ranged_record_iff.2 (List.forall_mem_map.2 fun _ _ => ranged_text _)
  · exact ranged_list_iff.2 (List.forall_mem_map.2 fun _ _ => ranged_text _)
  · split
    · rw [ranged_list_iff]
      simp only [List.forall_mem_cons]
      exact ⟨ranged_text _, nofun, List.forall_mem_nil _⟩
    · nofun

end Engine

/-- A save file is written only if everything in the save is in range, and then nothing is too
large. -/
theorem Save.minds_encode {cfg : Settings} {date : Date} {e : Engine} {data : Value}
    (hversion : InRange cfg.saveVersion) (hdata : e.serialize = .ok data) :
    Minds (Ranged data) (encode cfg date e) := by
  unfold encode
  rw [hdata]
  refine ((minds_encodeWithin _ (header cfg date)).bind fun first =>
    (minds_encodeWithin _ data).map (first ++ ·)).congr ?_
  exact and_iff_right (ranged_header hversion)

theorem Disk.save_of_minds {cfg : Settings} {e : Engine} {d : Disk} {P : Prop}
    (h : Minds P (Save.encode cfg d.saver.nextDate e)) (file : Option String) :
    (P → ∀ d', save cfg e file d ≠ .error .tooLarge d') ∧
      (¬ P → ∀ name d', save cfg e file d ≠ .ok name d') := by
  have hsaved := ends_save_encode cfg e file d
  refine ⟨fun hP d' herror => ?_, fun hP name d' hok => ?_⟩
  · rcases hsaved.of_error herror with ⟨_, _, hfile⟩ | hencode
    · cases hfile
    · exact h.tooLarge hencode hP
  · obtain ⟨bytes, hbytes⟩ := hsaved.of_ok hok
    exact hP (h.ok bytes hbytes)

namespace Engine

variable {cfg : Settings} {graphs : List Graph} {e : Engine} {calls : List Call}

/-- While no save is taken up, what lasts and holds of every new game always holds. -/
theorem Consistent.lasts (h : e.Consistent graphs) (hcalls : ∀ c ∈ calls, c.BringsData)
    {I : Session → Prop} (hI : Session.Lasting cfg I) (hs : I e.session)
    (hforget : ∀ f : Engine, I f.session → I f.forget.session) :
    I (e.afterAll cfg calls).session := by
  refine hI.afterAll h hs hforget fun before data later saved hsplit => ?_
  exact (hcalls (.restore data) (by simp [hsplit])).elim

theorem portable_of_data {host : Host} {clock : Clock} (hgraphs : Loaded cfg graphs)
    (hbuilt : Engine.ofGraphs graphs host clock = .ok e) (hcalls : ∀ c ∈ calls, c.BringsData) :
    (e.afterAll cfg calls).Portable := by
  refine (Portable.ofGraphs hgraphs.named hbuilt).afterAll fun c hc => ?_
  have hdata := hcalls c hc
  cases c with
  | external reports source =>
    intro o ho
    obtain ⟨_, hv⟩ := hdata _ ho
    cases hv
  | register | restore => exact hdata.elim
  | _ => trivial

end Engine

/-- As far as its integers are concerned, a game can be saved unless its log tells of an outcome,
authored or reported, whose amount there are no bytes for, or has too many entries to be numbered.
Then it cannot. -/
theorem saved_unless_amount_out_of_range {cfg : Settings} (hcfg : cfg.Accepted)
    (hrange : cfg.Ranged) {graphs : List Graph} (hgraphs : Loaded cfg graphs) {host : Host}
    {clock : Clock} {built : Engine} (hbuilt : Engine.ofGraphs graphs host clock = .ok built)
    {calls : List Call} (hcalls : ∀ c ∈ calls, c.BringsData) :
    let e := built.afterAll cfg calls
    ∃ data, e.serialize = .ok data ∧
      (Ranged data ↔ InRange e.session.log.entries.length ∧
        ∀ o : Outcome, o.Occurs graphs calls → o.toTable ∈ e.session.log.noted →
          InRange o.amount) ∧
      ∀ (d : Disk) (file : Option String),
        (Ranged data → ∀ d', Disk.save cfg e file d ≠ .error .tooLarge d') ∧
        (¬ Ranged data → ∀ name d', Disk.save cfg e file d ≠ .ok name d') := by
  intro e
  have hconsistent := Engine.Consistent.ofGraphs hbuilt
  have hstart := (Engine.of_register hbuilt).1
  have hportable : e.Portable := Engine.portable_of_data hgraphs hbuilt hcalls
  obtain ⟨fields, _, hdata, _⟩ := hportable.restores (rfl : e.session.graphs = _)
  have hbounded : e.session.ledger.Bounded cfg :=
    (hconsistent.lasts hcalls (Session.Lasting.boundedBut hcfg .empty)
      (by rw [hstart]; exact .refl cfg .empty) fun _ _ => .refl cfg .empty).bounded
      (Ledger.bounded_empty cfg)
  have hcounted : e.session.log.Counted :=
    hconsistent.lasts hcalls (Session.lasting_counted cfg)
      (by rw [hstart]; exact EventLog.counted_empty) fun _ _ => EventLog.counted_empty
  have hnotes : e.session.Notes (Outcome.Occurs graphs calls) := by
    have hsame : built.session.graphs = graphs := Engine.graphs_register hbuilt
    refine hconsistent.notes_afterAll (fun g hg o ho => .inl ⟨g, hsame ▸ hg, ho⟩) hcalls
      (fun c hc o ho => .inr ⟨c, hc, ho⟩) ?_
    rw [hstart]
    nofun
  refine ⟨.table fields, hdata, ?_, fun d file => ?_⟩
  · rw [Engine.ranged_serialize_iff hportable.storable.ledger hbounded hrange hdata,
      hcounted.ranged_iff]
    refine and_congr_right fun _ => ⟨fun hall o ho hnoted => ?_, fun hall n hn => ?_⟩
    · exact (ho.isRead hgraphs hcalls).ranged_toTable_iff.1 (hall _ hnoted)
    · obtain ⟨o, ho, rfl⟩ := hnotes n (List.mem_append_left _ hn)
      exact (ho.isRead hgraphs hcalls).ranged_toTable_iff.2 (hall o ho hn)
  · exact Disk.save_of_minds (Save.minds_encode hrange.version hdata) file

/-- The patrol has been walked, and as much experience has been gained at once as there are bytes
for. -/
theorem saved_unless_amount_out_of_range_patrol :
    let calls : List Call := [.newGame false, .start "patrol", .choose "patrol" "walk",
      .external [.data (.record [("kind", "grant_experience"), ("amount", .int (2 ^ 64 - 1))])]
        "sparring"]
    let e := (Engine.fresh .patrol {}).afterAll .builtIn calls
    ∃ graphs data, Content.load .builtIn .patrol [] = .ok graphs ∧
      Engine.ofGraphs graphs {} (.ticking 0 1) = .ok (.fresh .patrol {}) ∧
      e.serialize = .ok data ∧ Ranged data ∧
      ∀ (d : Disk) (file : Option String) d', Disk.save .builtIn e file d ≠ .error .tooLarge d' := by
  intro calls e
  obtain ⟨graphs, hload, hbuilt⟩ := Engine.ofGraphs_fresh {}
    (show (Content.load .builtIn .patrol []).toOption.isSome = true by decide +kernel)
  have hrange : Settings.builtIn.Ranged := ⟨by decide, by decide, by decide⟩
  obtain ⟨data, hdata, _, hsaves⟩ := saved_unless_amount_out_of_range Settings.accepted_builtIn
    hrange ⟨_, _, hload⟩ hbuilt (show ∀ c ∈ calls, c.BringsData by simp [calls, Call.BringsData])
  have hfits : (match e.serialize with
    | .ok data => MessagePack.fits data
    | .error _ => false) = true := by decide +kernel
  rw [hdata] at hfits
  have hranged := MessagePack.ranged_of_fits hfits
  exact ⟨graphs, data, hload, hbuilt, hdata, hranged, fun d file => (hsaves d file).1 hranged⟩

/-- One point more of experience, and the game cannot be saved any more. -/
theorem amount_out_of_range_not_saved :
    let d : Disk := { saver := {
      folder := "saves", time := fun _ => 0
      date := fun _ => { year := 2024, month := 1, day := 2 } } }
    let e := (Engine.fresh .patrol {}).afterAll .builtIn [.newGame false, .external
      [.data (.record [("kind", "grant_experience"), ("amount", .int (2 ^ 64))])] "sparring"]
    ∃ graphs data d', Content.load .builtIn .patrol [] = .ok graphs ∧
      Engine.ofGraphs graphs {} (.ticking 0 1) = .ok (.fresh .patrol {}) ∧
      e.serialize = .ok data ∧ ¬ Ranged data ∧
      Disk.save .builtIn e (some "s") d = .error .tooLarge d' := by
  intro d e
  obtain ⟨graphs, hload, hbuilt⟩ := Engine.ofGraphs_fresh {}
    (show (Content.load .builtIn .patrol []).toOption.isSome = true by decide +kernel)
  have hserialized : e.serialize.toBool = true := by decide +kernel
  obtain ⟨data, hdata⟩ := exists_of_toBool hserialized
  have hfails : (match Save.encode .builtIn d.saver.nextDate e with
    | .error .tooLarge => true
    | _ => false) = true := by decide +kernel
  have hencode : Save.encode .builtIn d.saver.nextDate e = .error .tooLarge := by
    split at hfails
    next h => exact h
    next => cases hfails
  have hway : Files.makeWay "s" d.files = .ok () {} := by
    rw [Files.makeWay, if_pos (by decide)]
    rfl
  exact ⟨graphs, data, _, hload, hbuilt, hdata,
    (Save.minds_encode (by decide) hdata).tooLarge hencode, Disk.save_eq_error hencode hway⟩

end Questline
