import Questline.Proofs.Plays

/-! The lifecycle changes of a game stand in its log, graph by graph.  Those of one graph lead along
a path from the state that every graph begins in to the state that it is in now. -/

namespace Questline

/-- The states that changes say a graph has come to, in order. -/
def movesOf (changes : List (Value × Lifecycle)) (g : String) : List Lifecycle :=
  changes.filterMap fun (graph, state) => if graph.text? = some g then some state else none

theorem movesOf_append (changes more : List (Value × Lifecycle)) (g : String) :
    movesOf (changes ++ more) g = movesOf changes g ++ movesOf more g :=
  List.filterMap_append

namespace EventLog

def changes (log : EventLog) : List (Value × Lifecycle) := log.entries.flatMap (·.transitions)

def noted (log : EventLog) : List Table := log.entries.flatMap (·.outcomes)

end EventLog

namespace Session

/-- The lifecycle changes on record, the entry that is being written included. -/
def changes (s : Session) : List (Value × Lifecycle) :=
  s.log.changes ++ s.pending.elim [] fun p => p.transitions.map fun (g, state) => (.text g, state)

/-- The outcomes on record, the entry that is being written included. -/
def noted (s : Session) : List Table := s.log.noted ++ s.pending.elim [] (·.outcomes)

/-- An outcome that unlocks a graph has been applied. -/
def Named (s : Session) (g : String) : Prop :=
  ∃ o : Outcome, o.kind = .unlockQuest ∧ o.target = some g ∧ o.toTable ∈ s.noted

end Session

def Act.changes : Act → List (Value × Lifecycle)
  | .moves g state => [(.text g, state)]
  | _ => []

def Act.notes : Act → List Table
  | .applies _ o => [o.toTable]
  | _ => []

namespace Graph

/-- How the lifecycle of a graph may go on. -/
inductive Edge (g : Graph) : Lifecycle → Lifecycle → Prop
  | opened : Edge g .unavailable .available
  | started : Edge g .available .inProgress
  | restarted : g.repeatable = true → Edge g .completed .inProgress
  | completed : Edge g .inProgress .completed
  | failed : Edge g .inProgress .failed
  | abandoned : Edge g .available .failed

/-- The states along a way, from the first to the last. -/
inductive Path (g : Graph) : Lifecycle → List Lifecycle → Lifecycle → Prop
  | nil (state : Lifecycle) : Path g state [] state
  | cons {a b c : Lifecycle} {states : List Lifecycle} :
      g.Edge a b → Path g b states c → Path g a (b :: states) c

variable {g : Graph} {a b c : Lifecycle} {states : List Lifecycle}

theorem Path.snoc (h : g.Path a states b) (hb : g.Edge b c) : g.Path a (states ++ [c]) c := by
  induction h with
  | nil => exact .cons hb (.nil c)
  | cons he _ ih => exact .cons he (ih hb)

/-- A graph that is not repeatable has one way to be completed, and none once it has come to an
end. -/
theorem Path.count_completed (h : g.Path a states b) (hg : g.repeatable = false) :
    states.count .completed ≤ if a = .completed ∨ a = .failed then 0 else 1 := by
  induction h with
  | nil => simp
  | cons he _ ih =>
    rw [List.count_cons]
    cases he with
    | restarted hrep => simp [hg] at hrep
    | _ => simp at *; omega

theorem Path.after_failed {xs ys : List Lifecycle} (h : g.Path a (xs ++ .failed :: ys) b) :
    ys = [] := by
  induction xs generalizing a with
  | nil =>
    cases h with
    | cons _ hrest =>
      cases hrest with
      | nil => rfl
      | cons he => cases he
  | cons x xs ih =>
    cases h with
    | cons _ hrest => exact ih hrest

theorem Edge.of_change {s : Session} {i : Instance} {state : Lifecycle} (h : Change s i state) :
    i.graph.Edge i.lifecycle state := by
  cases h with
  | opened hi => exact hi ▸ .opened
  | started hi => exact hi ▸ .started
  | restarted hi hrep => exact hi ▸ .restarted hrep
  | completed hi => exact hi ▸ .completed
  | failed hi => exact hi ▸ .failed
  | abandoned hi => exact hi ▸ .abandoned

end Graph

variable {cfg : Settings} {reported : Outcome → Prop} {s t : Session} {acts : List Act}

namespace Act

/-- An act changes the lifecycle of an instance just if it moves its graph. -/
theorem onInstance_cases (a : Act) (i : Instance) :
    (movesOf a.changes i.graph.id = [] ∧ (a.onInstance i).lifecycle = i.lifecycle) ∨
    ∃ state, a = .moves i.graph.id state ∧ (a.onInstance i).lifecycle = state := by
  cases a with
  | applies c o => exact .inl ⟨rfl, i.upon_lifecycle o⟩
  | moves g state =>
    by_cases hg : i.graph.id = g
    · exact .inr ⟨state, by rw [hg], by simp [onInstance, hg]⟩
    · exact .inl ⟨by simp [movesOf, changes, Value.text?, Ne.symm hg], by simp [onInstance, hg]⟩
  | enters g n =>
    refine .inl ⟨rfl, ?_⟩
    unfold onInstance
    dsimp only
    split <;> rfl
  | _ => exact .inl ⟨rfl, rfl⟩

/-- Every outcome and every lifecycle change goes on record, and nothing is taken back. -/
theorem record_run (cfg : Settings) {a : Act} (h : a.Lawful reported s) :
    (a.run cfg s).noted = s.noted ++ a.notes ∧
    (a.run cfg s).changes = s.changes ++ a.changes := by
  unfold Session.noted Session.changes
  have hmakes := makes cfg h
  generalize a.run cfg s = t at hmakes ⊢
  cases hmakes with
  | opens hnone => simp [hnone, notes, changes]
  | applies happlied =>
    obtain ⟨p, hp⟩ := Option.isSome_iff_exists.1 h.1
    obtain ⟨messages, _, hpending⟩ := happlied.pending
    rw [happlied.log, hpending, hp]
    simp [notes, changes]
  | moves =>
    obtain ⟨p, hp⟩ := Option.isSome_iff_exists.1 h.1
    simp [Session.moved, Session.recorded, Session.updateInstance, hp, notes, changes]
  | enters => simp [Session.updateInstance, notes, changes]
  | remarks => cases hp : s.pending <;> simp [Session.remarked, hp, notes, changes]
  | closes hp =>
    simp [Session.closed, Session.entry, Step.entryOf, EventLog.noted, EventLog.changes, hp, notes,
      changes]
  | drops hp hchanges =>
    simp only [Pending.hasChanges, Bool.not_eq_false', Bool.and_eq_true, List.isEmpty_iff]
      at hchanges
    simp [hp, hchanges, notes, changes]
  | asks | turns => simp [notes, changes]

end Act

theorem Course.changes_eq (h : Course cfg reported s acts t) :
    t.changes = s.changes ++ acts.flatMap (·.changes) := by
  induction h with
  | nil => simp
  | cons ha _ ih => rw [ih, (Act.record_run cfg ha).2, List.flatMap_cons, List.append_assoc]

theorem Course.noted_eq (h : Course cfg reported s acts t) :
    t.noted = s.noted ++ acts.flatMap (·.notes) := by
  induction h with
  | nil => simp
  | cons ha _ ih => rw [ih, (Act.record_run cfg ha).1, List.flatMap_cons, List.append_assoc]

theorem Session.Named.course {g : String} (h : s.Named g) (hc : Course cfg reported s acts t) :
    t.Named g := by
  obtain ⟨o, hkind, htarget, hnoted⟩ := h
  refine ⟨o, hkind, htarget, hc.keeps (I := fun u => o.toTable ∈ u.noted) ?_ hnoted⟩
  intro a u hu ha
  rw [(Act.record_run cfg ha).1]
  exact List.mem_append_left _ hu

/-- Where every graph of a session has come from. -/
structure Session.Charted (s : Session) : Prop where
  path : ∀ i ∈ s.instances, i.graph.Path .unavailable (movesOf s.changes i.graph.id) i.lifecycle
  named : ∀ i ∈ s.instances, i.unlocked = true → s.Named i.graph.id
  locked : ∀ i ∈ s.instances, i.graph.locked = true → i.lifecycle ≠ .unavailable →
    s.Named i.graph.id

theorem Act.onInstance_unlocked {a : Act} {i : Instance}
    (h : (a.onInstance i).unlocked = true) : i.unlocked = true ∨
      ∃ c o, a = .applies c o ∧ o.kind = .unlockQuest ∧ o.target = some i.graph.id := by
  cases a with
  | applies c o =>
    by_cases ho : o.kind = .unlockQuest ∧ o.target = some i.graph.id
    · exact .inr ⟨c, o, rfl, ho⟩
    · refine .inl ?_
      rwa [onInstance, Instance.upon, if_neg ho] at h
  | moves g state | enters g n =>
    refine .inl ?_
    unfold onInstance at h
    dsimp only at h
    split at h <;> exact h
  | _ => exact .inl h

theorem Session.Charted.run (h : s.Charted) (hs : s.Sound) {a : Act} (ha : a.Lawful reported s) :
    (a.run cfg s).Charted := by
  have hrecord := Act.record_run cfg ha
  have kept {g : String} (hg : s.Named g) : (a.run cfg s).Named g := hg.course (.single cfg ha)
  have moving {i : Instance} (hi : i ∈ s.instances) {state : Lifecycle}
      (hmoves : a = .moves i.graph.id state) : Change s i state := by
    subst hmoves
    obtain ⟨_, j, hj, hchange⟩ := ha
    cases hj.symm.trans (instance?_of_mem hs.distinct hi)
    exact hchange
  constructor
  all_goals
    rw [Act.instances_run ha]
    intro j hj
    obtain ⟨i, hi, rfl⟩ := List.mem_map.1 hj
    rw [Act.onInstance_graph]
  case path =>
    have hpath := h.path i hi
    rw [hrecord.2, movesOf_append]
    rcases a.onInstance_cases i with ⟨hmoves, hlife⟩ | ⟨state, hmoves, hlife⟩
    · rw [hlife, hmoves, List.append_nil]
      exact hpath
    · have hone : movesOf a.changes i.graph.id = [state] := by
        simp [hmoves, Act.changes, movesOf, Value.text?]
      rw [hlife, hone]
      exact hpath.snoc (.of_change (moving hi hmoves))
  case named =>
    intro hunlocked
    rcases Act.onInstance_unlocked hunlocked with hunlocked | ⟨c, o, rfl, hkind, htarget⟩
    · exact kept (h.named i hi hunlocked)
    · exact ⟨o, hkind, htarget, hrecord.1 ▸ List.mem_append_right _ (List.mem_singleton_self _)⟩
  case locked =>
    intro hlocked hlife
    rcases a.onInstance_cases i with ⟨_, hsame⟩ | ⟨state, hmoves, _⟩
    · exact kept (h.locked i hi hlocked (hsame ▸ hlife))
    · have hchange := moving hi hmoves
      cases hchange with
      | opened _ hready _ =>
        refine kept (h.named i hi (hready.resolve_left ?_))
        simp [hlocked]
      | _ => exact kept (h.locked i hi hlocked (by simp_all))

theorem Session.Charted.course (h : s.Charted) (hs : s.Sound)
    (hc : Course cfg reported s acts t) : t.Charted :=
  (hc.keeps (I := fun s => s.Sound ∧ s.Charted)
    (fun _ _ h ha => ⟨h.1.congr (Act.graphs_run ha), h.2.run h.1 ha⟩) ⟨hs, h⟩).2

theorem Session.Charted.fresh (hlog : s.changes = [])
    (hs : ∀ i ∈ s.instances, i.lifecycle = .unavailable ∧ i.unlocked = false) : s.Charted := by
  constructor
  · intro i hi
    rw [hlog, (hs i hi).1]
    exact .nil _
  · exact fun i hi h => by simp [(hs i hi).2] at h
  · exact fun i hi _ h => absurd (hs i hi).1 h

theorem count_movesOf (acts : List Act) (g : String) (state : Lifecycle) :
    (movesOf (acts.flatMap (·.changes)) g).count state = acts.countP (Act.isMove g state) := by
  induction acts with
  | nil => rfl
  | cons a rest ih =>
    rw [List.flatMap_cons, movesOf_append, List.count_append, List.countP_cons, ← ih, Nat.add_comm]
    congr 1
    cases a with
    | moves h state' =>
      by_cases hh : h = g
      · by_cases hstate : state' = state <;>
          simp [movesOf, Act.changes, Act.isMove, Value.text?, hh, hstate]
      · simp [movesOf, Act.changes, Act.isMove, Value.text?, hh]
    | _ => rfl

end Questline
