import Questline.Proofs.Consistency
import Questline.Proofs.Ledgers
import Questline.Proofs.Sorting

/-! A state that is written down reads back as it was, but for the order of its flags. -/

namespace Questline

theorem mapM_map_eq_ok {ε α β : Type} {f : β → Except ε α} {g : α → β} {l : List α}
    (h : ∀ a ∈ l, f (g a) = .ok a) : (l.map g).mapM f = .ok l := by
  induction l with
  | nil => rfl
  | cons a rest ih =>
    rw [List.forall_mem_cons] at h
    rw [List.map_cons, List.mapM_cons, h.1, ok_bind, ih h.2]
    rfl

namespace Assoc

theorem foldlM_put {ε κ α β : Type} [BEq κ] {f : Assoc κ α → β → Except ε (Assoc κ α)}
    {g : κ × α → β} {m : Assoc κ α} (hk : ∀ k ∈ keys m, Exact k) (hm : (keys m).Nodup)
    (hf : ∀ acc, ∀ p ∈ m, f acc (g p) = .ok (put acc p.1 p.2)) :
    (m.map g).foldlM f [] = .ok m := by
  -- every further key is new to what has been put before, so it goes to the end
  have step : ∀ (rest acc : Assoc κ α), (∀ k ∈ keys (acc ++ rest), Exact k) →
      (keys (acc ++ rest)).Nodup →
      (∀ acc, ∀ p ∈ rest, f acc (g p) = .ok (put acc p.1 p.2)) →
      (rest.map g).foldlM f acc = .ok (acc ++ rest) := by
    intro rest
    induction rest with
    | nil =>
      intro acc _ _ _
      rw [List.append_nil]
      rfl
    | cons p rest ih =>
      intro acc hk hm hf
      have hnew : p.1 ∉ keys acc := by
        rw [keys, List.map_append, List.map_cons, List.nodup_append] at hm
        exact fun hmem => hm.2.2 _ hmem _ List.mem_cons_self rfl
      have hput : put acc p.1 p.2 = acc ++ [p] :=
        put_of_notMem p.2 (hk p.1 (by simp [keys])) hnew
      rw [List.map_cons, List.foldlM_cons, hf acc p List.mem_cons_self, ok_bind, hput,
        ih (acc ++ [p]) (by simpa using hk) (by simpa using hm) fun acc q hq =>
          hf acc q (List.mem_cons_of_mem _ hq)]
      simp
  exact step m [] hk hm hf

end Assoc

namespace Value

theorem field?_record (fields : Assoc String Value) (name : String) :
    Table.field? (fields.map fun (k, v) => (Atom.text k, v)) name = Assoc.get? fields name := by
  unfold Table.field?
  induction fields with
  | nil => rfl
  | cons p rest ih => simp [Assoc.get?, Atom.beq_text, ih]

theorem require_record {fields : Assoc String Value} {name : String} {v : Value}
    (h : Assoc.get? fields name = some v) : (record fields).require name = .ok v := by
  change (Table.field? _ name).elim _ _ = _
  rw [field?_record, h]
  rfl

theorem getD_record {fields : Assoc String Value} {name : String} {v : Value}
    (h : Assoc.get? fields name = some v) (usual : Value) :
    (record fields).getD name usual = .ok v := by
  change Except.ok ((Table.field? _ name).getD usual) = _
  rw [field?_record, h]
  rfl

end Value

namespace Ledger

theorem readFlags_atoms {flags : List Atom}
    (hflags : flags.Pairwise fun a b => (a == b) = false) :
    readFlags (.list (flags.map .atom)) = .ok flags := by
  have step : ∀ (rest acc : List Atom), (acc ++ rest).Pairwise (fun a b => (a == b) = false) →
      (rest.map Value.atom).foldlM (m := Except Fault)
        (fun flags item => return readFlags.insertNew flags (← item.readAtom)) acc =
        .ok (acc ++ rest) := by
    intro rest
    induction rest with
    | nil =>
      intro acc _
      rw [List.append_nil]
      rfl
    | cons a rest ih =>
      intro acc hpairs
      have hnew : ¬ acc.contains a = true := by
        rw [List.contains_iff_exists_mem_beq]
        rintro ⟨b, hb, hab⟩
        have hne := (List.pairwise_append.1 hpairs).2.2 b hb a List.mem_cons_self
        rw [Atom.beq_comm, hne] at hab
        cases hab
      rw [List.map_cons, List.foldlM_cons]
      change (Except.ok (readFlags.insertNew acc a) >>= _) = _
      rw [ok_bind, readFlags.insertNew, if_neg hnew]
      exact (ih (acc ++ [a]) (by simpa using hpairs)).trans (by simp)
  exact step flags [] hflags

theorem readScores_scoresTable {scores : Assoc String Int} (h : (Assoc.keys scores).Nodup) :
    readScores (scoresTable scores) = .ok scores := by
  unfold readScores scoresTable Value.record
  change List.foldlM _ [] ((scores.map _).map _) = _
  rw [List.map_map]
  exact Assoc.foldlM_put (fun k _ => Assoc.exact k) h fun _ _ _ => rfl

theorem readWord_word (state : Lifecycle) :
    (Value.text state.word).readWord Lifecycle = .ok state := by
  cases state <;> rfl

theorem readStates_record {states : Assoc String Lifecycle} (h : (Assoc.keys states).Nodup) :
    readStates (.record (states.map fun (g, state) => (g, .text state.word))) = .ok states := by
  unfold readStates Value.record
  change List.foldlM _ [] ((states.map _).map _) = _
  rw [List.map_map]
  refine Assoc.foldlM_put (fun k _ => Assoc.exact k) h fun acc p _ => ?_
  change ((Value.text p.2.word).readWord Lifecycle >>= fun s => _) = _
  rw [readWord_word]
  rfl

theorem exists_names {α : Type} {m : Assoc Atom α} (h : Atom.Texts (Assoc.keys m)) :
    ∃ names : Assoc String α, m = names.map fun (g, a) => (.text g, a) := by
  induction m with
  | nil => exact ⟨[], rfl⟩
  | cons p rest ih =>
    obtain ⟨k, a⟩ := p
    obtain ⟨g, rfl⟩ := h k List.mem_cons_self
    obtain ⟨names, rfl⟩ := ih fun k hk => h k (List.mem_cons_of_mem _ hk)
    exact ⟨(g, a) :: names, rfl⟩

/-- Nothing stands in a ledger twice, and graphs go by texts.  That is so of any ledger that has
been read, whatever its flags are. -/
structure Distinct (l : Ledger) : Prop where
  flags : l.flags.Pairwise fun a b => (a == b) = false
  reputation : (Assoc.keys l.reputation).Nodup
  graphs : Atom.Texts (Assoc.keys l.questState)
  questState : (Assoc.keys l.questState).Nodup
  relationship : (Assoc.keys l.relationship).Nodup

theorem Tidy.distinct {l : Ledger} (h : l.Tidy) : l.Distinct := by
  refine ⟨h.flags.imp_of_mem fun {a b} _ hb hne => ?_, h.reputation, h.graphs, h.questState,
    h.relationship⟩
  obtain ⟨s, rfl⟩ := h.texts b hb
  rw [Atom.beq_text]
  exact decide_eq_false hne

theorem distinct_of_readFlags {v : Value} {flags : List Atom} (h : readFlags v = .ok flags) :
    flags.Pairwise fun a b => (a == b) = false := by
  obtain ⟨items, _, h⟩ := bind_eq_ok.1 h
  refine foldlM_keeps (fun flags item flags' hflags hstep => ?_) .nil h
  obtain ⟨a, _, hstep⟩ := bind_eq_ok.1 hstep
  cases hstep
  unfold readFlags.insertNew
  split
  · exact hflags
  next hnew =>
    refine List.pairwise_append.2 ⟨hflags, List.pairwise_singleton _ _, fun b hb c hc => ?_⟩
    cases List.mem_singleton.1 hc
    rw [List.contains_iff_exists_mem_beq] at hnew
    rw [Atom.beq_comm, Bool.eq_false_iff]
    exact fun hab => hnew ⟨b, hb, hab⟩

theorem nodup_of_readScores {v : Value} {scores : Assoc String Int}
    (h : readScores v = .ok scores) : (Assoc.keys scores).Nodup := by
  obtain ⟨fields, _, h⟩ := bind_eq_ok.1 h
  refine foldlM_keeps (I := fun scores : Assoc String Int => (Assoc.keys scores).Nodup)
    (fun scores field scores' hscores hstep => ?_) (by simp) h
  obtain ⟨n, _, hstep⟩ := bind_eq_ok.1 hstep
  cases hstep
  exact Assoc.nodup_keys_put _ (Assoc.exact _) hscores

theorem nodup_of_readStates {v : Value} {states : Assoc String Lifecycle}
    (h : readStates v = .ok states) : (Assoc.keys states).Nodup := by
  obtain ⟨fields, _, h⟩ := bind_eq_ok.1 h
  refine foldlM_keeps (I := fun states : Assoc String Lifecycle => (Assoc.keys states).Nodup)
    (fun states field states' hstates hstep => ?_) (by simp) h
  obtain ⟨state, _, hstep⟩ := bind_eq_ok.1 hstep
  cases hstep
  exact Assoc.nodup_keys_put _ (Assoc.exact _) hstates

theorem distinct_of_ofValue {v : Value} {l : Ledger} (h : ofValue v = .ok l) : l.Distinct := by
  have hgraphs : Atom.Texts (Assoc.keys l.questState) := fun k hk => text_of_ofValue h hk
  obtain ⟨_, _, h⟩ := bind_eq_ok.1 h
  obtain ⟨flags, hflags, h⟩ := bind_eq_ok.1 h
  obtain ⟨_, _, h⟩ := bind_eq_ok.1 h
  obtain ⟨reputation, hreputation, h⟩ := bind_eq_ok.1 h
  obtain ⟨_, _, h⟩ := bind_eq_ok.1 h
  obtain ⟨states, hstates, h⟩ := bind_eq_ok.1 h
  obtain ⟨_, _, h⟩ := bind_eq_ok.1 h
  obtain ⟨relationship, hrelationship, h⟩ := bind_eq_ok.1 h
  cases h
  refine ⟨distinct_of_readFlags hflags, nodup_of_readScores hreputation, hgraphs, ?_,
    nodup_of_readScores hrelationship⟩
  have hkeys : Assoc.keys (states.map fun (k, s) => (Atom.text k, s)) =
      (Assoc.keys states).map Atom.text := by
    rw [Assoc.keys, Assoc.keys, List.map_map, List.map_map]
    rfl
  rw [hkeys]
  exact (nodup_of_readStates hstates).map fun _ _ h => Atom.text.inj h

/-- A ledger that is written down reads back with its flags in order. -/
theorem Distinct.ofValue_toValue {l : Ledger} (h : l.Distinct) {flags : List Atom}
    (hsort : Atom.sort l.flags = .ok flags) :
    ∃ v, l.toValue = .ok v ∧ ofValue v = .ok { l with flags } := by
  have hflags : readFlags (.list (flags.map .atom)) = .ok flags := by
    refine readFlags_atoms <| ((Atom.perm_of_sort hsort).pairwise_iff fun {a b} hab => ?_).2 h.flags
    rwa [Atom.beq_comm]
  obtain ⟨states, hstates⟩ := exists_names h.graphs
  have hread : readStates (.table (l.questState.map fun p => (p.1, .text p.2.word))) =
      .ok states := by
    have hnames : (Assoc.keys states).Nodup := by
      have hkeys : Assoc.keys l.questState = (Assoc.keys states).map Atom.text := by
        rw [hstates, Assoc.keys, Assoc.keys, List.map_map, List.map_map]
        rfl
      exact List.Nodup.of_map _ (hkeys ▸ h.questState)
    have hread := readStates_record hnames
    rw [Value.record, List.map_map] at hread
    rw [hstates, List.map_map]
    exact hread
  refine ⟨_, by rw [toValue, sortedFlags, hsort, ok_bind]; rfl, ?_⟩
  unfold ofValue
  rw [Value.getD_record rfl, ok_bind, hflags, ok_bind, Value.getD_record rfl, ok_bind,
    readScores_scoresTable h.reputation, ok_bind, Value.getD_record rfl, ok_bind, hread, ok_bind,
    Value.getD_record rfl, ok_bind, readScores_scoresTable h.relationship, ok_bind, ← hstates]
  rfl

end Ledger

namespace Entry

theorem readTransition_pair (graph : Value) (state : Lifecycle) :
    readTransition (.list [graph, .text state.word]) = .ok (graph, state) := by
  change ((Value.text state.word).readWord Lifecycle >>= fun s => _) = _
  rw [Ledger.readWord_word]
  rfl

theorem readWord_word (kind : EntryKind) :
    (Value.text kind.word).readWord EntryKind = .ok kind := by
  cases kind <;> rfl

theorem ofValue_toValue (e : Entry) : ofValue e.toValue = .ok e := by
  have htransitions := mapM_map_eq_ok (l := e.transitions) (f := readTransition)
    fun p _ => readTransition_pair p.1 p.2
  have houtcomes := mapM_map_eq_ok (l := e.outcomes) (f := Value.readTable) (g := .table)
    fun _ _ => rfl
  unfold ofValue toValue
  rw [Value.require_record rfl, ok_bind, Value.readInt, ok_bind, Value.require_record rfl, ok_bind,
    readWord_word, ok_bind, Value.require_record rfl, ok_bind, Value.readFloat, ok_bind,
    Value.getD_record rfl, ok_bind, Value.getD_record rfl, ok_bind, Value.getD_record rfl, ok_bind,
    Value.getD_record rfl, ok_bind, Value.getD_record rfl, ok_bind, Value.elements, ok_bind,
    htransitions, ok_bind, Value.getD_record rfl, ok_bind, Value.elements, ok_bind, houtcomes]
  rfl

end Entry

namespace EventLog

theorem Ordered.ofValue_toValue {log : EventLog} (h : log.Ordered) :
    ofValue log.toValue = .ok log := by
  unfold ofValue toValue
  rw [Value.elements, ok_bind, List.foldlM_map]
  simp only [Entry.ofValue_toValue, ok_bind]
  exact h

end EventLog

namespace Session

variable {s : Session}

theorem nodup_keys_activeNodes (h : s.graphNames.Nodup) : (Assoc.keys s.activeNodes).Nodup := by
  refine h.sublist ?_
  unfold Assoc.keys activeNodes graphNames
  induction s.instances with
  | nil => exact .slnil
  | cons i rest ih =>
    cases hn : i.activeNode with
    | none => simpa [hn] using ih.cons i.graph.id
    | some n => simpa [hn] using ih.cons_cons i.graph.id

theorem readTexts_activeNodes (h : s.graphNames.Nodup) :
    Saved.readTexts (.record (s.activeNodes.map fun (g, n) => (g, .text n))) =
      .ok s.activeNodes := by
  unfold Saved.readTexts Value.record
  change List.foldlM _ [] ((s.activeNodes.map _).map _) = _
  rw [List.map_map]
  exact Assoc.foldlM_put (fun k _ => Assoc.exact k) (nodup_keys_activeNodes h) fun _ _ _ => rfl

/-- What is written down about a session. -/
def saved (s : Session) (flags : List Atom) : Saved :=
  { ledger := { s.ledger with flags }
    states := s.instances.map fun i => (i.graph.id, i.lifecycle)
    activeNodes := s.activeNodes
    unlocked := s.unlockedGraphs
    log := s.log
    ending := s.ending }

theorem readEnding_record {fields : Assoc String Value} {ending : Option (String × Bool)}
    (h : Assoc.get? fields "ending" = some (match ending with
      | some (name, failed) => .list [.text name, .bool failed]
      | none => .null)) : Saved.readEnding (.record fields) = .ok ending := by
  unfold Saved.readEnding
  rw [Value.getD_record h, ok_bind]
  cases ending <;> rfl

/-- A session whose flags can be sorted reads back as it was, with its flags in order. -/
theorem ofValue_sorted {e : Engine} (hledger : e.session.ledger.Distinct) {flags : List Atom}
    (hsort : Atom.sort e.session.ledger.flags = .ok flags) (hlog : e.session.log.Ordered)
    (hnames : e.session.graphNames.Nodup) :
    ∃ data, e.serialize = .ok data ∧ Saved.ofValue data = .ok (e.session.saved flags) := by
  obtain ⟨v, hv, hread⟩ := hledger.ofValue_toValue hsort
  have hstates : Ledger.readStates (.record (e.session.instances.map fun i =>
      (i.graph.id, .text i.lifecycle.word))) =
      .ok (e.session.instances.map fun i => (i.graph.id, i.lifecycle)) := by
    have hkeys :
        (Assoc.keys (e.session.instances.map fun i => (i.graph.id, i.lifecycle))).Nodup := by
      rw [Assoc.keys, List.map_map]
      exact hnames
    have hrecord := Ledger.readStates_record hkeys
    rw [List.map_map] at hrecord
    exact hrecord
  refine ⟨_, by rw [Engine.serialize, hv, ok_bind]; rfl, ?_⟩
  unfold Saved.ofValue
  rw [Value.require_record rfl, ok_bind, hread, ok_bind, Value.require_record rfl, ok_bind, hstates,
    ok_bind, Value.require_record rfl, ok_bind, readTexts_activeNodes hnames, ok_bind,
    Value.getD_record rfl, ok_bind, Value.elements, ok_bind, Value.require_record rfl, ok_bind,
    hlog.ofValue_toValue, ok_bind, readEnding_record rfl, ok_bind]
  have hunlocked : (e.session.unlockedGraphs.map Value.text).map Value.plain =
      e.session.unlockedGraphs := by
    rw [List.map_map]
    exact List.map_id _
  rw [hunlocked]
  rfl

/-- A session with a tidy ledger reads back as it was, with its flags in order. -/
theorem ofValue_serialize {e : Engine} (hledger : e.session.ledger.Tidy)
    (hlog : e.session.log.Ordered) (hnames : e.session.graphNames.Nodup) :
    ∃ flags data, Atom.sort e.session.ledger.flags = .ok flags ∧
      flags.Perm e.session.ledger.flags ∧ e.serialize = .ok data ∧
      Saved.ofValue data = .ok (e.session.saved flags) := by
  obtain ⟨flags, hsort, hperm, _⟩ := Atom.sort_texts hledger.texts
  obtain ⟨data, hdata, hread⟩ := ofValue_sorted hledger.distinct hsort hlog hnames
  exact ⟨flags, data, hsort, hperm, hdata, hread⟩

/-- A session that can be written down without loss. -/
structure Storable (s : Session) : Prop where
  ledger : s.ledger.Tidy
  log : s.log.Ordered

variable {cfg : Settings} {reported : Outcome → Prop} {t : Session} {acts : List Act}

theorem Storable.run (h : s.Storable) {a : Act} (ha : a.Lawful reported s) :
    (a.run cfg s).Storable := by
  have hmakes := Act.makes cfg ha
  generalize a.run cfg s = t at hmakes ⊢
  cases hmakes with
  | @applies _ o t happlied =>
    refine ⟨?_, happlied.log ▸ h.log⟩
    rw [happlied.ledger]
    cases hl : o.onLedger cfg s.ledger with
    | error why => exact h.ledger
    | ok m => exact h.ledger.onLedger hl
  | moves => exact ⟨h.ledger.setState _ _, h.log⟩
  | closes => exact ⟨h.ledger, h.log.append (s.append_entry _)⟩
  | _ => exact ⟨h.ledger, h.log⟩

theorem Storable.course (h : s.Storable) (hc : Course cfg reported s acts t) : t.Storable :=
  hc.keeps (I := Storable) (fun _ _ h ha => h.run ha) h

end Session

end Questline
