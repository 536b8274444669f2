import Questline.Proofs.Clearing
import Questline.Proofs.Packing
import Questline.Proofs.Reaching

/-! What is saved of a game has a shape that save files can hold: the fields of each table have
names of their own, and nothing nests too deep.  The outcomes in the log are the only part that
comes from outside as data, so their names must leave room for what stands around them. -/

namespace Questline

open MessagePack (Shaped isPlain maxNesting)

variable {room : Nat}

namespace MessagePack

theorem Shaped.record {fields : Assoc String Value} (hnames : (Assoc.keys fields).Nodup)
    (h : ∀ p ∈ fields, Shaped room p.2) : Shaped (room + 1) (.record fields) := by
  have hkeys : Assoc.keys (fields.map fun p => (Atom.text p.1, p.2)) =
      (Assoc.keys fields).map Atom.text := by
    rw [Assoc.keys, Assoc.keys, List.map_map, List.map_map]
    rfl
  have htable : Shaped (room + 1) (.table (fields.map fun p => (Atom.text p.1, p.2))) := by
    refine .table ?_ ?_ ?_
    · rw [hkeys]
      intro k hk
      obtain ⟨name, _, rfl⟩ := List.mem_map.1 hk
      exact ⟨name, rfl⟩
    · rw [hkeys]
      exact hnames.map fun _ _ h => Atom.text.inj h
    · intro p hp
      obtain ⟨q, hq, rfl⟩ := List.mem_map.1 hp
      exact h q hq
  exact htable

theorem Shaped.map {α : Type} {l : List α} {f : α → Value} (h : ∀ a ∈ l, Shaped room (f a)) :
    Shaped (room + 1) (.list (l.map f)) := by
  refine .list fun v hv => ?_
  obtain ⟨a, ha, rfl⟩ := List.mem_map.1 hv
  exact h a ha

theorem shaped_ofText? (s : Option String) : Shaped (room + 1) (.ofText? s) := by
  cases s <;> exact .atom rfl

end MessagePack

open MessagePack (shaped_ofText?)

namespace Outcome

variable {o : Outcome}

theorem shaped_of_mem_toTable (h : Shaped (room + 1) o.id) {p : Atom × Value}
    (hp : p ∈ o.toTable) : (∃ name, p.1 = .text name) ∧ Shaped (room + 1) p.2 := by
  have only {name : String} {v : Value} (hv : Shaped (room + 1) v)
      (hp : p ∈ [(Atom.text name, v)]) : (∃ name, p.1 = .text name) ∧ Shaped (room + 1) p.2 := by
    cases List.mem_singleton.1 hp
    exact ⟨⟨name, rfl⟩, hv⟩
  unfold toTable at hp
  simp only [List.mem_append, or_assoc] at hp
  rcases hp with hp | hp | hp | hp | hp
  · exact only (.atom rfl) hp
  · split at hp
    · exact only (shaped_ofText? _) hp
    · cases hp
  · split at hp
    · exact only (.atom rfl) hp
    · cases hp
  · split at hp
    · exact only (.atom rfl) hp
    · cases hp
  · split at hp
    · exact only h hp
    · cases hp

theorem nodup_keys_toTable (o : Outcome) : (Assoc.keys o.toTable).Nodup := by
  unfold toTable
  cases o.kind <;> cases o.id.isTrue <;>
    simp [Assoc.keys, OutcomeKind.targetField?, OutcomeKind.amountField?]

theorem shaped_toTable (h : Shaped (room + 1) o.id) : Shaped (room + 2) (.table o.toTable) := by
  refine .table (fun k hk => ?_) o.nodup_keys_toTable fun p hp => (shaped_of_mem_toTable h hp).2
  obtain ⟨p, hp, rfl⟩ := List.mem_map.1 hk
  exact (shaped_of_mem_toTable h hp).1

end Outcome

theorem Entry.shaped_toValue {p : Pending} (h : ∀ o ∈ p.outcomes, Shaped (room + 2) (.table o))
    (id : Int) (timestamp : Float) :
    Shaped (room + 4) (Step.entryOf p id timestamp).toValue := by
  refine .record (by simp [Assoc.keys]) ?_
  simp only [Step.entryOf, List.forall_mem_cons, List.map_map]
  refine ⟨.atom rfl, .atom rfl, .atom rfl, shaped_ofText? _, shaped_ofText? _, shaped_ofText? _,
    .map h, .map fun c _ => .list ?_, shaped_ofText? _, List.forall_mem_nil _⟩
  simp only [List.forall_mem_cons]
  exact ⟨.atom rfl, .atom rfl, List.forall_mem_nil _⟩

namespace Ledger

variable {l : Ledger}

theorem shaped_scoresTable {scores : Assoc String Int} (h : (Assoc.keys scores).Nodup) :
    Shaped (room + 2) (scoresTable scores) := by
  refine .record ?_ fun p hp => ?_
  · rw [Assoc.keys, List.map_map]
    exact h
  · obtain ⟨q, _, rfl⟩ := List.mem_map.1 hp
    exact .atom rfl

theorem Tidy.shaped_toValue (h : l.Tidy) {v : Value} (hv : l.toValue = .ok v) :
    Shaped (room + 3) v := by
  obtain ⟨flags, hflags, hv⟩ := bind_eq_ok.1 hv
  cases hv
  refine .record (by simp [Assoc.keys]) ?_
  simp only [List.forall_mem_cons]
  refine ⟨.map fun a ha => ?_, shaped_scoresTable h.reputation, .table ?_ ?_ ?_,
    shaped_scoresTable h.relationship, List.forall_mem_nil _⟩
  · obtain ⟨s, rfl⟩ := h.texts a ((Atom.perm_of_sort hflags).subset ha)
    exact .atom rfl
  · rw [Assoc.keys, List.map_map]
    exact h.graphs
  · rw [Assoc.keys, List.map_map]
    exact h.questState
  · intro p hp
    obtain ⟨q, _, rfl⟩ := List.mem_map.1 hp
    exact .atom rfl

end Ledger

namespace Session

/-- Everything in a session that a save would hold as it comes leaves so much room. -/
structure Packable (room : Nat) (s : Session) : Prop where
  graphs : ∀ g ∈ s.graphs, ∀ o ∈ g.allOutcomes, Shaped (room + 1) o.id
  pending : ∀ p, s.pending = some p → ∀ o ∈ p.outcomes, Shaped (room + 2) (.table o)
  log : ∀ e ∈ s.log.entries, Shaped (room + 4) e.toValue

variable {cfg : Settings} {reported : Outcome → Prop} {s t : Session} {acts : List Act}

theorem Packable.of_offers (h : s.Packable room)
    (hreported : ∀ o, reported o → Shaped (room + 1) o.id) {c : Cause} {o : Outcome}
    (ho : c.Offers reported s o) : Shaped (room + 1) o.id := by
  rcases ho.stands with ho | ⟨g, hg, ho⟩
  · exact hreported o ho
  · exact h.graphs g hg o ho

theorem Packable.run (h : s.Packable room) (hreported : ∀ o, reported o → Shaped (room + 1) o.id)
    {a : Act} (ha : a.Lawful reported s) : (a.run cfg s).Packable room := by
  have hsame : (a.run cfg s).graphs = s.graphs := Act.graphs_run ha
  have hgraphs := hsame ▸ h.graphs
  have hmakes := Act.makes cfg ha
  generalize a.run cfg s = t at hmakes hgraphs ⊢
  refine ⟨hgraphs, ?_, ?_⟩
  · cases hmakes with
    | opens =>
      intro p hp
      cases hp
      nofun
    | @applies _ o t happlied =>
      obtain ⟨messages, _, hpending⟩ := happlied.pending
      intro p hp
      rw [hpending] at hp
      obtain ⟨q, hq, rfl⟩ := Option.map_eq_some_iff.1 hp
      refine List.forall_mem_append.2 ⟨h.pending q hq, List.forall_mem_singleton.2 ?_⟩
      exact Outcome.shaped_toTable (h.of_offers hreported ha.2)
    | moves =>
      intro p hp
      obtain ⟨q, hq, rfl⟩ := Option.map_eq_some_iff.1 hp
      exact h.pending q hq
    | remarks =>
      intro p hp
      obtain ⟨q, hq, rfl⟩ := Option.map_eq_some_iff.1 hp
      exact h.pending q hq
    | closes | drops => nofun
    | enters | asks | turns => exact h.pending
  · cases hmakes with
    | applies happlied => exact happlied.log ▸ h.log
    | closes hp =>
      refine List.forall_mem_append.2 ⟨h.log, List.forall_mem_singleton.2 ?_⟩
      exact Entry.shaped_toValue (h.pending _ hp) _ _
    | _ => exact h.log

theorem Packable.course (h : s.Packable room)
    (hreported : ∀ o, reported o → Shaped (room + 1) o.id)
    (hc : Course cfg reported s acts t) : t.Packable room :=
  hc.keeps (I := Packable room) (fun _ _ h ha => h.run hreported ha) h

end Session

namespace Engine

variable {e : Engine}

/-- What is saved of an engine nests no deeper than what goes into it as it comes. -/
theorem shaped_serialize (hledger : e.session.ledger.Tidy) (hnames : e.session.graphNames.Nodup)
    (h : e.session.Packable room) {data : Value} (hdata : e.serialize = .ok data) :
    Shaped (room + 6) data := by
  obtain ⟨ledger, hv, hdata⟩ := bind_eq_ok.1 hdata
  cases hdata
  refine .record (by simp [Assoc.keys]) ?_
  simp only [List.forall_mem_cons]
  refine ⟨hledger.shaped_toValue hv, .record ?_ ?_, .record ?_ ?_, .map fun _ _ => .atom rfl,
    .map h.log, ?_, List.forall_mem_nil _⟩
  · rw [Assoc.keys, List.map_map]
    exact hnames
  · intro p hp
    obtain ⟨i, _, rfl⟩ := List.mem_map.1 hp
    exact .atom rfl
  · rw [Assoc.keys, List.map_map]
    exact Session.nodup_keys_activeNodes hnames
  · intro p hp
    obtain ⟨i, _, rfl⟩ := List.mem_map.1 hp
    exact .atom rfl
  · split
    · refine .list ?_
      simp only [List.forall_mem_cons]
      exact ⟨.atom rfl, .atom rfl, List.forall_mem_nil _⟩
    · exact .atom rfl

end Engine

/-- An outcome that goes by something with room in a save file for all that stands around it.  Any
text is such a name. -/
def Outcome.Named (o : Outcome) : Prop := Shaped (maxNesting - 4) o.id

/-- Content names its outcomes by their places. -/
theorem Loaded.named {cfg : Settings} {graphs : List Graph} (h : Loaded cfg graphs) :
    ∀ g ∈ graphs, ∀ o ∈ g.allOutcomes, o.Named := by
  intro g hg o ho
  obtain ⟨_, _, hread⟩ := h.read_outcome g hg o ho
  rw [Outcome.Named, Outcome.id_of_read hread]
  exact .atom rfl

/-- A call that brings in no outcomes but such as have names, and that takes up no save. -/
def Call.Names : Call → Prop
  | .external reports _ => ∀ o, .ready o ∈ reports → o.Named
  | .register graphs => ∀ g ∈ graphs, ∀ o ∈ g.allOutcomes, o.Named
  | .restore _ => False
  | _ => True

namespace Engine

variable {cfg : Settings} {graphs : List Graph} {e e' : Engine}

theorem named_of_readReports {source : String} {reports : List Report} {place : Nat}
    {outcomes : List Outcome} (hreports : ∀ o, .ready o ∈ reports → o.Named)
    (h : readReports source place reports = .ok outcomes) : ∀ o ∈ outcomes, o.Named := by
  intro o ho
  rcases of_readReports h o ho with hready | ⟨_, _, _, hread⟩
  · exact hreports o hready
  · rw [Outcome.Named, Outcome.id_of_read hread]
    exact .atom rfl

/-- A graph that was not there before a call has been registered by it. -/
theorem Consistent.mem_graphs_after (h : e.Consistent graphs) {c : Call} {g : Graph}
    (hg : g ∈ (c.after cfg e).session.graphs) :
    g ∈ e.session.graphs ∨ ∃ more, c = .register more ∧ g ∈ more := by
  by_cases hother : ∀ more, c ≠ .register more
  · exact .inl (h.graphs_after cfg hother ▸ hg)
  push Not at hother
  obtain ⟨more, rfl⟩ := hother
  rw [Call.after, Call.ask] at hg
  cases hregister : e.register more with
  | error why =>
    rw [hregister] at hg
    exact .inl hg
  | ok e' =>
    rw [hregister] at hg
    change g ∈ e'.session.graphs at hg
    rw [graphs_register hregister, List.mem_append] at hg
    exact hg.imp_right fun hg => ⟨more, rfl, hg⟩

/-- What can be saved to a file and read from there. -/
structure Portable (e : Engine) : Prop where
  consistent : e.Consistent []
  storable : e.session.Storable
  packable : e.session.Packable (maxNesting - 5)

namespace Portable

theorem ofGraphs {host : Host} {clock : Clock}
    (hgraphs : ∀ g ∈ graphs, ∀ o ∈ g.allOutcomes, o.Named)
    (h : Engine.ofGraphs graphs host clock = .ok e) : e.Portable := by
  have hsettled := Settled.ofGraphs h
  refine ⟨hsettled.consistent, hsettled.storable, ?_, ?_, ?_⟩
  · rwa [graphs_register h]
  · rw [hsettled.idle]
    nofun
  · rw [(of_register h).1]
    nofun

theorem course (h : e.Portable) {c : Call} (hc : c.Names) {acts : List Act}
    (hconsistent : e'.Consistent []) (hcourse : Course cfg c.Reports e.session acts e'.session) :
    e'.Portable := by
  refine ⟨hconsistent, h.storable.course hcourse, h.packable.course ?_ hcourse⟩
  rintro o ⟨reports, source, outcomes, rfl, hread, ho⟩
  exact named_of_readReports hc hread o ho

theorem forget (h : e.Portable) : e.forget.Portable :=
  ⟨h.consistent.forget, ⟨.empty, .empty⟩, graphs_forget e ▸ h.packable.graphs, h.packable.pending,
    nofun⟩

theorem after (h : e.Portable) {c : Call} (hc : c.Names) : (c.after cfg e).Portable := by
  have hconsistent : (c.after cfg e).Consistent [] := h.consistent.after c
  cases h.consistent.passes cfg c with
  | plays _ hcourse => exact h.course hc hconsistent hcourse
  | begins hcall hcourse => exact h.forget.course hc hconsistent hcourse
  | resumes hcall =>
    rw [hcall] at hc
    exact hc.elim
  | aside _ hsession =>
    refine ⟨hconsistent, hsession ▸ ⟨h.storable.ledger, h.storable.log⟩, fun g hg => ?_, ?_, ?_⟩
    · rcases h.consistent.mem_graphs_after hg with hold | ⟨more, rfl, hmore⟩
      · exact h.packable.graphs g hold
      · exact hc g hmore
    · rw [hsession]
      exact h.packable.pending
    · rw [hsession]
      exact h.packable.log

theorem afterAll (h : e.Portable) {calls : List Call} (hcalls : ∀ c ∈ calls, c.Names) :
    (e.afterAll cfg calls).Portable := by
  induction calls generalizing e with
  | nil => exact h
  | cons c rest ih =>
    rw [List.forall_mem_cons] at hcalls
    exact ih (h.after hcalls.1) hcalls.2

end Portable

end Engine

end Questline
