import Questline.Proofs.Queries
import Questline.Proofs.Visiting

/-! Which graphs a pass over the availability of graphs opens: just those that are due when it
begins, in whatever order they are registered.  None is due when it is over. -/

namespace Questline

namespace Requirement

/-- What judging some requirements in turn comes to, when every service answers. -/
def verdict (l : Ledger) (h : Host) : List Requirement → Except Fault Bool
  | [] => .ok true
  | r :: rest => do
    if ← r.compare (r.fact l h) then verdict l h rest else return false

variable {l m : Ledger} {h h' : Host} {requirements : List Requirement}

theorem verdict_congr (hfacts : ∀ r : Requirement, r.fact l h = r.fact m h')
    (requirements : List Requirement) : verdict l h requirements = verdict m h' requirements := by
  induction requirements with
  | nil => rfl
  | cons r rest ih => rw [verdict, verdict, hfacts, ih]

theorem verdict_cons_of_met {r : Requirement} {rest : List Requirement}
    (hr : r.compare (r.fact l h) = .ok true) : verdict l h (r :: rest) = verdict l h rest := by
  rw [verdict, hr]
  rfl

theorem verdict_cons_of_unmet {r : Requirement} {rest : List Requirement}
    (hr : r.compare (r.fact l h) = .ok false) : verdict l h (r :: rest) = .ok false := by
  rw [verdict, hr]
  rfl

theorem verdict_cons_of_error {r : Requirement} {rest : List Requirement} {why : Fault}
    (hr : r.compare (r.fact l h) = .error why) : verdict l h (r :: rest) = .error why := by
  rw [verdict, hr]
  rfl

theorem holds_of_compare {r : Requirement} {met : Bool} (hr : r.compare (r.fact l h) = .ok met) :
    r.holds l h = met := by
  rw [holds, hr]

theorem all_of_verdict {met : Bool} (hv : verdict l h requirements = .ok met) :
    requirements.all (·.holds l h) = met := by
  induction requirements with
  | nil => exact Except.ok.inj hv
  | cons r rest ih =>
    rw [List.all_cons]
    cases hr : r.compare (r.fact l h) with
    | error why => cases (verdict_cons_of_error hr).symm.trans hv
    | ok this =>
      rw [holds_of_compare hr]
      cases this with
      | false => exact Except.ok.inj ((verdict_cons_of_unmet hr).symm.trans hv)
      | true => exact ih ((verdict_cons_of_met hr).symm.trans hv)

theorem verdict_of_judgeable (hjudged : ∀ r ∈ requirements, r.Judgeable) (l : Ledger)
    (h : Host) : ∃ met, verdict l h requirements = .ok met := by
  induction requirements with
  | nil => exact ⟨true, rfl⟩
  | cons r rest ih =>
    rw [List.forall_mem_cons] at hjudged
    obtain ⟨met, hr⟩ := hjudged.1.compare (r.fact l h)
    cases met with
    | false => exact ⟨false, verdict_cons_of_unmet hr⟩
    | true =>
      rw [verdict_cons_of_met hr]
      exact ih hjudged.2

/-- Where the host answers, judging a requirement comes to what the world says. -/
theorem ends_evaluate (r : Requirement) (l : Ledger) (h : Host) :
    Ends (r.evaluate l) h
      (fun met h' => (h.Queried h' ∧ (h.Answering → h'.Answering)) ∧
        r.compare (r.fact l h) = .ok met)
      fun why _ => h.Answering → r.compare (r.fact l h) = .error why := by
  have answer {h' : Host} (hh : h.Queried h') (hanswers : h.Answering → h'.Answering) :
      Ends (r.judged l) h'
        (fun met h' => (h.Queried h' ∧ (h.Answering → h'.Answering)) ∧
          r.compare (r.fact l h) = .ok met)
        fun why _ => h.Answering → r.compare (r.fact l h) = .error why := by
    have hfact : r.fact l h' = r.fact l h := by
      obtain ⟨outages, rfl, _⟩ := hh
      exact r.fact_outages l h outages
    rw [judged, ends_bind, ends_get, hfact]
    cases hcompare : r.compare (r.fact l h) with
    | error why => exact fun _ => rfl
    | ok met => exact ⟨⟨hh, hanswers⟩, rfl⟩
  cases hservice : r.service? with
  | none =>
    rw [evaluate_of_unasked hservice]
    exact answer (.refl h) id
  | some service =>
    rw [evaluate_of_asked hservice, ends_bind]
    have hcalled := Host.call_queried ⟨r, hservice⟩ h
    have hanswered := Ends.imp (P := h.Answering) fun hanswers =>
      Guarded.call_answering hservice h hanswers
    exact (hcalled.and hanswered).mono (fun _ _ hh => answer hh.1 hh.2)
      fun _ _ hh hanswers => (hh.2 hanswers).elim

theorem ends_allMet (requirements : List Requirement) (l : Ledger) (h : Host) :
    Ends (allMet l requirements) h
      (fun met h' => (h.Queried h' ∧ (h.Answering → h'.Answering)) ∧
        verdict l h requirements = .ok met)
      fun why _ => h.Answering → verdict l h requirements = .error why := by
  induction requirements generalizing h with
  | nil => exact ⟨⟨.refl h, id⟩, rfl⟩
  | cons r rest ih =>
    rw [allMet, ends_bind]
    refine (ends_evaluate r l h).mono (fun met h' hmet => ?_) fun why _ hr hanswers =>
      verdict_cons_of_error (hr hanswers)
    obtain ⟨hh, hr⟩ := hmet
    cases met with
    | false => exact ⟨hh, verdict_cons_of_unmet hr⟩
    | true =>
      have hsame : verdict l h' rest = verdict l h (r :: rest) := by
        obtain ⟨outages, rfl, _⟩ := hh.1
        rw [verdict_cons_of_met hr]
        exact verdict_congr (fun r => r.fact_outages l h outages) rest
      rw [← hsame]
      exact (ih h').mono (fun _ _ hv => ⟨⟨hh.1.trans hv.1.1, hv.1.2 ∘ hh.2⟩, hv.2⟩)
        fun _ _ hv hanswers => hv (hh.2 hanswers)

end Requirement

namespace Instance

/-- Whether nothing keeps a graph from becoming available any more. -/
def isDue (l : Ledger) (h : Host) (i : Instance) : Bool :=
  Step.isWaiting i && i.graph.requirements.all (·.holds l h)

/-- The requirements of a graph can be judged, if it waits for nothing else. -/
def Judged (l : Ledger) (h : Host) (i : Instance) : Prop :=
  Step.isWaiting i = true → ∃ met, Requirement.verdict l h i.graph.requirements = .ok met

variable {i : Instance} {l m : Ledger} {h : Host}

theorem isDue_congr (hl : l.Alike m) (outages : Assoc Service Outage) :
    i.isDue l { h with outages } = i.isDue m h := by
  have hsame : (fun r : Requirement => r.holds l { h with outages }) = (·.holds m h) := by
    funext r
    rw [r.holds_outages, r.holds_alike hl]
  rw [isDue, isDue, hsame]

theorem judged_congr (hl : l.Alike m) (outages : Assoc Service Outage) :
    i.Judged l { h with outages } ↔ i.Judged m h := by
  have hfacts (r : Requirement) : r.fact l { h with outages } = r.fact m h :=
    (r.fact_outages l h outages).trans (hl r h)
  rw [Judged, Judged, Requirement.verdict_congr hfacts]

theorem isDue_eq_true : i.isDue l h = true ↔ i.lifecycle = .unavailable ∧
    (i.graph.locked = false ∨ i.unlocked = true) ∧
      ∀ r ∈ i.graph.requirements, r.holds l h = true := by
  simp [isDue, Step.isWaiting, and_assoc]

theorem unavailable_of_isDue (hdue : i.isDue l h = true) : i.lifecycle = .unavailable :=
  (isDue_eq_true.1 hdue).1

theorem isDue_of_verdict {met : Bool} (hwaiting : Step.isWaiting i = true)
    (hv : Requirement.verdict l h i.graph.requirements = .ok met) : i.isDue l h = met := by
  rw [isDue, hwaiting, Requirement.all_of_verdict hv]
  rfl

end Instance

namespace Session

/-- The graphs that are due, in the order of their registration. -/
def due (s : Session) : List String :=
  (s.instances.filter (Instance.isDue s.ledger s.host)).map (·.graph.id)

/-- A session in which some graphs have become available. -/
def opened (s : Session) (names : List String) : Session :=
  { s with
    instances := s.instances.map fun i => if i.graph.id ∈ names then
      { i with lifecycle := .available, activeNode := none } else i
    ledger := names.foldl (fun l g => l.setState g .available) s.ledger
    pending := s.pending.map fun p => { p with
      transitions := p.transitions ++ names.map (·, .available) } }

def Judged (s : Session) : Prop := ∀ i ∈ s.instances, i.Judged s.ledger s.host

/-- The instances of graphs are where the ledger says. -/
def Recorded (s : Session) : Prop := ∀ i ∈ s.instances, i.lifecycle = s.ledger.stateOf i.graph.id

/-- No graph is due, as far as all of them can be judged. -/
structure Quiet (s : Session) : Prop where
  none_due : s.due = []
  judged : s.Judged

theorem Agrees.isRecorded {s : Session} (h : s.Agrees) : s.Recorded :=
  fun i hi => (h.placed i hi).recorded

@[simp] theorem opened_nil (s : Session) : s.opened [] = s := by
  simp [opened]

theorem opened_cons (s : Session) (g : String) (names : List String) :
    s.opened (g :: names) = (s.moved g .available).opened names := by
  unfold opened moved updateInstance recorded
  simp only [List.map_map, List.foldl_cons, Option.map_map]
  congr 1
  · cases s.pending <;> simp
  · apply List.map_congr_left
    intro i _
    by_cases hg : i.graph.id = g <;> simp [hg]

theorem opened_append (s : Session) (names more : List String) :
    s.opened (names ++ more) = (s.opened names).opened more := by
  induction names generalizing s with
  | nil => simp
  | cons g rest ih => rw [List.cons_append, opened_cons, opened_cons, ih]

theorem mem_due {s : Session} (hdistinct : s.graphNames.Nodup) {i : Instance}
    (hi : i ∈ s.instances) : i.graph.id ∈ s.due ↔ i.isDue s.ledger s.host = true := by
  unfold due
  rw [List.mem_map]
  constructor
  · rintro ⟨j, hj, hid⟩
    obtain ⟨hj, hdue⟩ := List.mem_filter.1 hj
    cases List.inj_on_of_nodup_map hdistinct hj hi hid
    exact hdue
  · exact fun hdue => ⟨i, List.mem_filter.2 ⟨hi, hdue⟩, rfl⟩

end Session

namespace Step

/-- A graph that does not go into progress is just moved. -/
theorem transition_eq {state : Lifecycle} (hstate : state ≠ .inProgress) (g : String)
    (s : Session) : transition g state s = .ok () (s.moved g state) := by
  have hrun : (Act.moves g state).run .builtIn s = s.moved g state := Act.run_moves g state
  unfold Act.run Act.step at hrun
  simp only [if_neg hstate] at hrun
  exact congrArg (EStateM.Result.ok ()) hrun

/-- A pass opens just what is due by the given ledger, and only what cannot be judged stops it. -/
theorem ends_promote (l : Ledger) (waiting : List Instance) (s : Session) :
    Ends (promote l waiting) s
      (fun _ t => Asked (s.opened ((waiting.filter (Instance.isDue l s.host)).map (·.graph.id))) t ∧
        (s.host.Answering → t.host.Answering) ∧ ∀ i ∈ waiting, i.Judged l s.host)
      fun _ _ => ¬ (s.host.Answering ∧ ∀ i ∈ waiting, i.Judged l s.host) := by
  induction waiting generalizing s with
  | nil => exact ⟨by simpa using .refl s, id, by simp⟩
  | cons i rest ih =>
    -- the graphs to come are judged by the same facts
    have goOn {t : Session} {due : Bool} (hdue : i.isDue l s.host = due) (hj : i.Judged l s.host)
        (hopened : Asked (s.opened (if due then [i.graph.id] else [])) t)
        (hanswers : s.host.Answering → t.host.Answering) :
        Ends (promote l rest) t
          (fun _ t => Asked (s.opened
              (((i :: rest).filter (Instance.isDue l s.host)).map (·.graph.id))) t ∧
            (s.host.Answering → t.host.Answering) ∧ ∀ j ∈ i :: rest, j.Judged l s.host)
          fun _ _ => ¬ (s.host.Answering ∧ ∀ j ∈ i :: rest, j.Judged l s.host) := by
      obtain ⟨outages, rfl⟩ := hopened
      have hnames : ((i :: rest).filter (Instance.isDue l s.host)).map (·.graph.id) =
          (if due then [i.graph.id] else []) ++
            (rest.filter (Instance.isDue l { s.host with outages })).map (·.graph.id) := by
        have hsame : Instance.isDue l { s.host with outages } = Instance.isDue l s.host :=
          funext fun _ => Instance.isDue_congr (.refl l) outages
        rw [hsame, List.filter_cons, hdue]
        cases due <;> rfl
      have hjudged : (∀ j ∈ i :: rest, j.Judged l s.host) ↔
          ∀ j ∈ rest, j.Judged l { s.host with outages } := by
        simp only [List.forall_mem_cons, hj, true_and, Instance.judged_congr (.refl l)]
      rw [hnames, Session.opened_append, hjudged]
      refine (ih _).mono (fun _ u hu => ⟨?_, hu.2.1 ∘ hanswers, hu.2.2⟩)
        fun _ _ hno h => hno ⟨hanswers h.1, h.2⟩
      obtain ⟨outages', rfl⟩ := hu.1
      exact ⟨outages', rfl⟩
    rw [promote]
    split
    next hwaiting =>
      rw [ends_bind, ends_onHost]
      refine (Requirement.ends_allMet _ l s.host).mono (fun met host hmet => ?_)
        fun why _ hwhy hall => ?_
      · obtain ⟨⟨⟨outages, rfl, _⟩, hanswers⟩, hv⟩ := hmet
        have hdue := Instance.isDue_of_verdict hwaiting hv
        have hj : i.Judged l s.host := fun _ => ⟨met, hv⟩
        cases met with
        | false => exact goOn hdue hj ⟨outages, by simp⟩ hanswers
        | true =>
          rw [if_pos rfl, ends_bind]
          unfold Ends
          rw [transition_eq (by decide)]
          refine goOn hdue hj ⟨outages, ?_⟩ hanswers
          rw [if_pos rfl, Session.opened_cons, Session.opened_nil]
          rfl
      · obtain ⟨met, hv⟩ := hall.2 i List.mem_cons_self hwaiting
        cases hv.symm.trans (hwhy hall.1)
    next hno =>
      have hdue : i.isDue l s.host = false := by
        rw [Instance.isDue, Bool.eq_false_of_not_eq_true hno]
        rfl
      exact goOn hdue (fun hwaiting => absurd hwaiting hno) (by simpa using .refl s) id

theorem ends_refreshAvailability (s : Session) :
    Ends refreshAvailability s
      (fun _ t => Asked (s.opened s.due) t ∧ (s.host.Answering → t.host.Answering) ∧ s.Judged)
      fun _ _ => ¬ (s.host.Answering ∧ s.Judged) :=
  ends_promote s.ledger s.instances s

end Step

/-- Making graphs available that have not been completed bears on no requirement. -/
theorem Ledger.Alike.opened {l : Ledger} {names : List String}
    (h : ∀ g ∈ names, l.stateOf g ≠ .completed) :
    (names.foldl (fun l g => l.setState g .available) l).Alike l := by
  induction names generalizing l with
  | nil => exact .refl l
  | cons g rest ih =>
    rw [List.forall_mem_cons] at h
    refine .trans (ih fun g' hg' => ?_) (.setState h.1)
    rw [Ledger.stateOf_setState]
    split
    · simp
    · exact h.2 g' hg'

namespace Session

variable {s t : Session}

theorem Recorded.alike_opened (h : s.Recorded) : (s.opened s.due).ledger.Alike s.ledger := by
  refine .opened fun g hg => ?_
  obtain ⟨i, hi, rfl⟩ := List.mem_map.1 hg
  obtain ⟨hi, hdue⟩ := List.mem_filter.1 hi
  rw [← h i hi, Instance.unavailable_of_isDue hdue]
  simp

/-- One pass is enough: it leaves no graph behind that is due. -/
theorem Recorded.quiet (h : s.Recorded) (hjudged : s.Judged) (ht : Asked (s.opened s.due) t) :
    t.Quiet := by
  obtain ⟨outages, rfl⟩ := ht
  have hsame : Instance.isDue (s.opened s.due).ledger { s.host with outages } =
      Instance.isDue s.ledger s.host :=
    funext fun _ => Instance.isDue_congr h.alike_opened outages
  -- a graph that waits still is one that was not due
  have still {i : Instance} (hi : i ∈ s.instances) {j : Instance}
      (hj : j = if i.graph.id ∈ s.due then { i with lifecycle := .available, activeNode := none }
        else i) (hwaiting : Step.isWaiting j = true) : j = i ∧ i.graph.id ∉ s.due := by
    subst hj
    by_cases hdue : i.graph.id ∈ s.due
    · rw [if_pos hdue, Step.isWaiting] at hwaiting
      cases hwaiting
    · exact ⟨if_neg hdue, hdue⟩
  constructor
  · rw [due, List.map_eq_nil_iff, List.filter_eq_nil_iff]
    intro j hj hdue
    obtain ⟨i, hi, rfl⟩ := List.mem_map.1 hj
    have hwaiting := hdue
    rw [Instance.isDue, Bool.and_eq_true] at hwaiting
    obtain ⟨he, hno⟩ := still hi rfl hwaiting.1
    rw [he] at hdue
    refine hno (List.mem_map.2 ⟨i, List.mem_filter.2 ⟨hi, ?_⟩, rfl⟩)
    exact hsame ▸ hdue
  · intro j hj
    obtain ⟨i, hi, rfl⟩ := List.mem_map.1 hj
    intro hwaiting
    obtain ⟨he, _⟩ := still hi rfl hwaiting
    rw [he] at hwaiting ⊢
    exact (Instance.judged_congr h.alike_opened outages).2 (hjudged i hi) hwaiting

/-- A session after a pass that is an entry of its own.  A pass that opens nothing writes none. -/
def refreshed (s : Session) : Session :=
  if s.due = [] then s
  else (s.opened s.due).closed { kind := .refresh, transitions := s.due.map (·, .available) }

theorem mem_graphsIn (hdistinct : s.graphNames.Nodup) {i : Instance} (hi : i ∈ s.instances)
    {state : Lifecycle} : i.graph.id ∈ s.graphsIn state ↔ i.lifecycle = state := by
  unfold graphsIn
  rw [List.mem_map]
  constructor
  · rintro ⟨j, hj, hid⟩
    obtain ⟨hj, hstate⟩ := List.mem_filter.1 hj
    cases List.inj_on_of_nodup_map hdistinct hj hi hid
    simpa using hstate
  · exact fun hstate => ⟨i, List.mem_filter.2 ⟨hi, by simpa using hstate⟩, rfl⟩

/-- The graphs that are available after a pass and were not before are those that were due. -/
theorem graphsIn_opened (hdistinct : s.graphNames.Nodup) :
    ((s.opened s.due).graphsIn .available).filter
      (fun g => !(s.graphsIn .available).contains g) = s.due := by
  let mark (i : Instance) : Instance :=
    if i.graph.id ∈ s.due then { i with lifecycle := .available, activeNode := none } else i
  have hid : (fun i : Instance => i.graph.id) ∘ mark = (·.graph.id) := by
    funext i
    simp only [Function.comp, mark]
    split <;> rfl
  change (((s.instances.map mark).filter _).map _).filter _ = (s.instances.filter _).map _
  rw [List.filter_map, List.filter_filter, List.filter_map, List.map_map, hid]
  congr 1
  apply List.filter_congr
  intro i hi
  have hbefore : i.graph.id ∈ s.graphsIn .available ↔ _ := mem_graphsIn hdistinct hi
  have hdue := mem_due hdistinct hi
  rw [Bool.eq_iff_iff, ← hdue]
  simp only [Function.comp, mark, Bool.and_eq_true, decide_eq_true_eq, Bool.not_eq_true',
    List.contains_eq_mem, decide_eq_false_iff_not]
  split
  next hnow => simp [hnow, hbefore, Instance.unavailable_of_isDue (hdue.1 hnow)]
  next hno => simp [hno, hbefore]

end Session

namespace Step

variable {s : Session}

theorem refreshAvailability_ok (hjudged : s.Judged) (hanswers : s.host.Answering) :
    ∃ t, refreshAvailability s = .ok () t ∧ Asked (s.opened s.due) t ∧ t.host.Answering := by
  obtain ⟨_, t, hrun, hopened, hkept, _⟩ := ((ends_refreshAvailability s).mono
    (fun _ _ h => h) fun _ _ hno => hno ⟨hanswers, hjudged⟩).exists_ok
  exact ⟨t, hrun, hopened, hkept hanswers⟩

theorem refreshed_ok (hidle : s.pending = none) (hjudged : s.Judged)
    (hanswers : s.host.Answering) :
    ∃ t, Step.refreshed s = .ok () t ∧ Asked s.refreshed t := by
  let p : Pending := { kind := .refresh, transitions := s.due.map (·, .available) }
  obtain ⟨_, hrun, ⟨outages, rfl⟩, _⟩ := refreshAvailability_ok
    (s := { s with pending := some { kind := .refresh } }) hjudged hanswers
  have hends : Ends Step.refreshed s (fun _ t => Asked s.refreshed t) fun _ _ => False := by
    unfold Step.refreshed settling
    rw [ends_openEntry_bind hidle, ends_bind, ends_orElseDo]
    unfold Ends
    rw [hrun]
    change Ends _ ({ s.opened s.due with
      pending := some p, host := { s.host with outages } } : Session) _ _
    rw [ends_bind, ends_get, Session.hasPendingChanges]
    by_cases hnone : s.due = []
    · have hsame : s.refreshed = s := if_pos hnone
      have hno : p.hasChanges = false := by simp [p, Pending.hasChanges, hnone]
      rw [Option.any_some, if_neg (by simp [hno]), hsame]
      unfold Ends
      rw [discard_eq rfl hno, hnone, Session.opened_nil]
      exact ⟨outages, by rw [← hidle]⟩
    · have hyes : p.hasChanges = true := by
        simp [p, Pending.hasChanges, hnone]
      rw [Option.any_some, if_pos hyes, ends_bind]
      unfold Ends
      rw [commit_eq rfl, Session.refreshed, if_neg hnone]
      exact ⟨outages, rfl⟩
  obtain ⟨_, t, h⟩ := hends.exists_ok
  exact ⟨t, h⟩

end Step

theorem Session.instances_refreshed (s : Session) :
    s.refreshed.instances = (s.opened s.due).instances := by
  unfold refreshed
  split
  next hnone => rw [hnone, opened_nil]
  next => rfl

theorem Engine.refresh_ok {e : Engine} (hidle : e.session.pending = none)
    (hdistinct : e.session.graphNames.Nodup) (hjudged : e.session.Judged)
    (hanswers : e.session.host.Answering) :
    ∃ t, Engine.refresh e = .ok e.session.due { e with session := t } ∧
      Asked e.session.refreshed t := by
  obtain ⟨t, hrun, hasked⟩ := Step.refreshed_ok hidle hjudged hanswers
  refine ⟨t, ?_, hasked⟩
  change (onSession Step.refreshed >>= _ : EngineStep _) e = _
  rw [run_onSession, hrun, ← Session.graphsIn_opened hdistinct]
  have hinstances : t.instances = (e.session.opened e.session.due).instances := by
    obtain ⟨_, rfl⟩ := hasked
    exact e.session.instances_refreshed
  simp only [Session.graphsIn, ← hinstances]
  rfl

/-- What a pass over the availability of graphs comes to, on its own and as an entry. -/
structure Session.OpensDue (s : Session) : Prop where
  due : ∀ g, g ∈ s.due ↔ ∃ i, s.instance? g = some i ∧ i.lifecycle = .unavailable ∧
    (i.graph.locked = false ∨ i.unlocked = true) ∧
      ∀ r ∈ i.graph.requirements, r.holds s.ledger s.host = true
  once : ∃ t, Step.refreshAvailability s = .ok () t ∧ Asked (s.opened s.due) t ∧
    ∃ u, Step.refreshAvailability t = .ok () u ∧ Asked t u
  anyOrder : ∀ instances, instances.Perm s.instances → ∃ names t, names.Perm s.due ∧
    Step.refreshAvailability { s with instances } = .ok () t ∧
      Asked (({ s with instances } : Session).opened names) t
  entry : s.pending = none → ∀ diagnostics, ∃ t,
    Engine.refresh { session := s, diagnostics } = .ok s.due { session := t, diagnostics } ∧
      Asked s.refreshed t

/-- Where the instances agree with the ledger, a pass opens just the graphs that are due, whatever
their order, and a second pass opens nothing.  As an entry of its own it tells which they are, and
goes into the log if there are any. -/
theorem pass_opens_due {s : Session} (hs : s.Recorded) (hdistinct : s.graphNames.Nodup)
    (hjudged : ∀ g ∈ s.graphs, ∀ r ∈ g.requirements, r.Judgeable)
    (hanswers : s.host.Answering) : s.OpensDue := by
  have hjudged : s.Judged := fun i hi _ =>
    Requirement.verdict_of_judgeable (hjudged i.graph (List.mem_map_of_mem hi)) _ _
  constructor
  · intro g
    constructor
    · intro hg
      obtain ⟨i, hi, rfl⟩ := List.mem_map.1 hg
      obtain ⟨hi, hdue⟩ := List.mem_filter.1 hi
      exact ⟨i, Session.instance?_of_mem hdistinct hi, Instance.isDue_eq_true.1 hdue⟩
    · rintro ⟨i, hi, hdue⟩
      rw [← Session.id_of_instance? hi, Session.mem_due hdistinct (Session.mem_of_instance? hi)]
      exact Instance.isDue_eq_true.2 hdue
  · obtain ⟨t, hrun, hopened, ht⟩ := Step.refreshAvailability_ok hjudged hanswers
    obtain ⟨hnone, hjudged'⟩ := hs.quiet hjudged hopened
    obtain ⟨u, hrun', hopened', _⟩ := Step.refreshAvailability_ok hjudged' ht
    rw [hnone, Session.opened_nil] at hopened'
    exact ⟨t, hrun, hopened, u, hrun', hopened'⟩
  · intro instances hperm
    obtain ⟨t, hrun, hopened, _⟩ := Step.refreshAvailability_ok (s := { s with instances })
      (fun i hi => hjudged i (hperm.mem_iff.1 hi)) hanswers
    exact ⟨_, t, (hperm.filter _).map _, hrun, hopened⟩
  · exact fun hidle diagnostics =>
      Engine.refresh_ok (e := { session := s, diagnostics }) hidle hdistinct hjudged hanswers

/-- The patrol, a relief until it has been walked, and a parade afterwards. -/
theorem pass_opens_due_patrol :
    let relief : Graph := { Graph.patrol with
      id := "relief", requirements := [⟨.questCompleted, "patrol", .fails, none⟩] }
    let parade : Graph := { Graph.patrol with
      id := "parade", requirements := [⟨.questCompleted, "patrol", .holds, none⟩] }
    let s : Session := { Session.start {} (.ticking 0 1) with
      instances := [{ graph := .patrol }, { graph := parade }, { graph := relief }] }
    s.due = ["patrol", "relief"] ∧ s.OpensDue := by
  intro relief parade s
  refine ⟨by decide +kernel, pass_opens_due ?_ (by decide +kernel) ?_ (.of_up rfl)⟩
  · unfold Session.Recorded
    decide +kernel
  · simp [s, relief, parade, Session.graphs, Requirement.Judgeable, Graph.patrol]

end Questline
