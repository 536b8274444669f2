import Questline.Proofs.Acts

/-! Everything that a request does to a session is a course of small acts, each allowed at the
moment when it is done.  What holds of every allowed act holds of every request. -/

namespace Questline

/-- How the lifecycle of a graph may change, at a moment of a session. -/
inductive Change (s : Session) (i : Instance) : Lifecycle → Prop
  | opened : i.lifecycle = .unavailable → (i.graph.locked = false ∨ i.unlocked = true) →
      (∀ r ∈ i.graph.requirements, r.holds s.ledger s.host = true) → Change s i .available
  | started : i.lifecycle = .available → Change s i .inProgress
  | restarted : i.lifecycle = .completed → i.graph.repeatable = true → Change s i .inProgress
  | completed : i.lifecycle = .inProgress → Change s i .completed
  | failed : i.lifecycle = .inProgress → Change s i .failed
  | abandoned {p : Pending} : i.lifecycle = .available → s.pending = some p →
      p.kind = .abandon → p.graph = some i.graph.id → Change s i .failed

/-- Whether an outcome stands where it is said to, or is one of the reported ones. -/
def Cause.Offers (reported : Outcome → Prop) (s : Session) (o : Outcome) : Cause → Prop
  | .choice g => ∃ i n c, s.instance? g = some i ∧ i.lifecycle = .inProgress ∧
      n ∈ i.graph.nodes ∧ i.activeNode = some n.id ∧ c ∈ n.choices ∧ o ∈ c.outcomes
  | .entry g => ∃ i n, s.instance? g = some i ∧ i.lifecycle = .inProgress ∧
      n ∈ i.graph.nodes ∧ i.activeNode = some n.id ∧ o ∈ n.entryOutcomes
  | .completion g => ∃ i, s.instance? g = some i ∧ i.lifecycle = .completed ∧
      o ∈ i.graph.completion
  | .failure g => ∃ i, s.instance? g = some i ∧ i.lifecycle = .failed ∧ o ∈ i.graph.failure
  | .report => reported o

/-- What is offered stands in a registered graph, or is reported. -/
theorem Cause.Offers.stands {reported : Outcome → Prop} {s : Session} {o : Outcome} {c : Cause}
    (h : c.Offers reported s o) : reported o ∨ ∃ g ∈ s.graphs, o ∈ g.allOutcomes := by
  have inside {g : String} {i : Instance} (hi : s.instance? g = some i)
      (hmem : o ∈ i.graph.allOutcomes) : reported o ∨ ∃ g ∈ s.graphs, o ∈ g.allOutcomes :=
    .inr ⟨i.graph, List.mem_map_of_mem (Session.mem_of_instance? hi), hmem⟩
  cases c with
  | choice g =>
    obtain ⟨i, n, c, hi, _, hn, _, hc, ho⟩ := h
    exact inside hi (by simp only [Graph.allOutcomes, List.mem_append, List.mem_flatMap]; grind)
  | entry g =>
    obtain ⟨i, n, hi, _, hn, _, ho⟩ := h
    exact inside hi (by simp only [Graph.allOutcomes, List.mem_append, List.mem_flatMap]; grind)
  | completion g =>
    obtain ⟨i, hi, _, ho⟩ := h
    exact inside hi (by simp [Graph.allOutcomes, ho])
  | failure g =>
    obtain ⟨i, hi, _, ho⟩ := h
    exact inside hi (by simp [Graph.allOutcomes, ho])
  | report => exact .inl h

/-- When an act is allowed. -/
def Act.Lawful (reported : Outcome → Prop) (s : Session) : Act → Prop
  | .opens _ _ _ _ _ => s.pending = none
  | .applies c o => s.inEntry = true ∧ c.Offers reported s o
  | .moves g state => s.inEntry = true ∧ ∃ i, s.instance? g = some i ∧ Change s i state
  | .enters g n => s.inEntry = true ∧
      ∃ i, s.instance? g = some i ∧ i.lifecycle = .inProgress ∧ i.graph.hasNode n = true
  | .asks _ | .remarks _ => True
  | .closes => s.inEntry = true
  | .drops => ∃ p, s.pending = some p ∧ p.hasChanges = false
  | .turns _ => s.pending = none

/-- What an allowed act makes of a session. -/
inductive Act.Makes (cfg : Settings) (s : Session) : Act → Session → Prop
  | opens {kind : EntryKind} {graph node choice source : Option String} : s.pending = none →
      Makes cfg s (.opens kind graph node choice source)
        { s with pending := some { kind, graph, node, choice, source } }
  | applies {c : Cause} {o : Outcome} {t : Session} : Applied cfg o s t →
      Makes cfg s (.applies c o) t
  | moves {g : String} {state : Lifecycle} : Makes cfg s (.moves g state) (s.moved g state)
  | enters {g n : String} :
      Makes cfg s (.enters g n) (s.updateInstance g fun i => { i with activeNode := some n })
  | asks {service : Service} {outages : Assoc Service Outage} :
      s.host.FailsAlike { s.host with outages } →
      Makes cfg s (.asks service) { s with host := { s.host with outages } }
  | remarks {message : String} : Makes cfg s (.remarks message) (s.remarked [message])
  | closes {p : Pending} : s.pending = some p → Makes cfg s .closes (s.closed p)
  | drops {p : Pending} : s.pending = some p → p.hasChanges = false →
      Makes cfg s .drops { s with pending := none }
  | turns {host : Host} : Makes cfg s (.turns host) { s with host }

/-- Acts done one after the other, each of them allowed. -/
inductive Course (cfg : Settings) (reported : Outcome → Prop) :
    Session → List Act → Session → Prop
  | nil (s : Session) : Course cfg reported s [] s
  | cons {s t : Session} {a : Act} {acts : List Act} : a.Lawful reported s →
      Course cfg reported (a.run cfg s) acts t → Course cfg reported s (a :: acts) t

namespace Course

variable {cfg : Settings} {reported : Outcome → Prop} {s t u : Session} {as bs : List Act}

theorem single (cfg : Settings) {a : Act} (h : a.Lawful reported s) :
    Course cfg reported s [a] (a.run cfg s) :=
  .cons h (.nil _)

theorem append (h : Course cfg reported s as t) (k : Course cfg reported t bs u) :
    Course cfg reported s (as ++ bs) u := by
  induction h with
  | nil => exact k
  | cons ha _ ih => exact .cons ha (ih k)

theorem split (h : Course cfg reported s (as ++ bs) u) :
    ∃ t, Course cfg reported s as t ∧ Course cfg reported t bs u := by
  induction as generalizing s with
  | nil => exact ⟨s, .nil s, h⟩
  | cons a as ih =>
    cases h with
    | cons ha h =>
      obtain ⟨t, h₁, h₂⟩ := ih h
      exact ⟨t, .cons ha h₁, h₂⟩

theorem moment {a : Act} (h : Course cfg reported s (as ++ a :: bs) u) :
    ∃ t, Course cfg reported s as t ∧ a.Lawful reported t ∧
      Course cfg reported (a.run cfg t) bs u := by
  obtain ⟨t, h₁, h₂⟩ := h.split
  cases h₂ with
  | cons ha h₂ => exact ⟨t, h₁, ha, h₂⟩

/-- What every allowed act keeps is kept by every course. -/
theorem keeps {I : Session → Prop} (h : Course cfg reported s as t)
    (hI : ∀ (a : Act) s, I s → a.Lawful reported s → I (a.run cfg s)) (hs : I s) : I t := by
  induction h with
  | nil => exact hs
  | cons ha _ ih => exact ih (hI _ _ hs ha)

theorem keepsAmong {I : Session → Prop} {A : Act → Prop} (h : Course cfg reported s as t)
    (hA : ∀ a ∈ as, A a)
    (hI : ∀ (a : Act) s, I s → A a → a.Lawful reported s → I (a.run cfg s)) (hs : I s) : I t := by
  induction h with
  | nil => exact hs
  | cons ha _ ih =>
    rw [List.forall_mem_cons] at hA
    exact ih hA.2 (hI _ _ hs hA.1 ha)

end Course

namespace Act

variable {cfg : Settings} {reported : Outcome → Prop} {s t : Session} {acts : List Act}

def onInstance (a : Act) (i : Instance) : Instance :=
  match a with
  | .applies _ o => i.upon o
  | .moves g state => if i.graph.id = g then { i with
      lifecycle := state
      activeNode := if state = .inProgress then some i.graph.start else none } else i
  | .enters g n => if i.graph.id = g then { i with activeNode := some n } else i
  | _ => i

@[simp] theorem onInstance_graph (a : Act) (i : Instance) : (a.onInstance i).graph = i.graph := by
  unfold onInstance
  split
  · exact i.upon_graph _
  · split <;> rfl
  · split <;> rfl
  · rfl

theorem makes (cfg : Settings) {a : Act} (h : a.Lawful reported s) :
    a.Makes cfg s (a.run cfg s) := by
  cases a with
  | opens kind graph node choice source =>
    rw [run_opens h]
    exact .opens h
  | applies c o => exact .applies (applied cfg c o s)
  | moves g state =>
    rw [run_moves]
    exact .moves
  | enters g n => exact .enters
  | asks service =>
    obtain ⟨host, _, halike, _, hhost⟩ := (Aside.onHost (.call service) s).after
    obtain ⟨outages, hrun⟩ := run_asks cfg s service
    have hsame : host = { s.host with outages } := congrArg Session.host (hhost.symm.trans hrun)
    rw [hrun]
    exact .asks (hsame ▸ halike)
  | remarks message => exact .remarks
  | closes =>
    obtain ⟨p, hp⟩ := Option.isSome_iff_exists.1 h
    rw [run_closes cfg hp]
    exact .closes hp
  | drops =>
    obtain ⟨p, hp, hchanges⟩ := h
    rw [run_drops cfg hp hchanges]
    exact .drops hp hchanges
  | turns host => exact .turns

theorem instances_run {a : Act} (h : a.Lawful reported s) :
    (a.run cfg s).instances = s.instances.map a.onInstance := by
  have hmakes := makes cfg h
  generalize a.run cfg s = t at hmakes ⊢
  cases hmakes with
  | applies happlied => exact happlied.instances
  | moves | enters => rfl
  | _ => exact (List.map_id _).symm

theorem instance?_run (cfg : Settings) {a : Act} (h : a.Lawful reported s) (g : String) :
    (a.run cfg s).instance? g = (s.instance? g).map a.onInstance := by
  unfold Session.instance?
  rw [instances_run h, List.find?_map]
  congr 2
  funext i
  simp

theorem graphs_run {a : Act} (h : a.Lawful reported s) :
    (a.run cfg s).graphs = s.graphs := by
  rw [Session.graphs, instances_run h, List.map_map]
  exact List.map_congr_left fun i _ => onInstance_graph a i

end Act

theorem Course.graphs {cfg : Settings} {reported : Outcome → Prop} {s t : Session}
    {acts : List Act} (h : Course cfg reported s acts t) :
    t.graphs = s.graphs := by
  induction h with
  | nil => rfl
  | cons ha _ ih => exact ih.trans (Act.graphs_run ha)

end Questline
