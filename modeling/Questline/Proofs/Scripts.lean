import Questline.Proofs.Plays

/-! What a story goes through, apart from graphs becoming available on the way.  A choice, a node
and the end of a graph each have a script, the acts that they are made of in authored order. -/

namespace Questline

namespace Act

/-- Whether an act goes on with the story. -/
def isStride : Act → Bool
  | .applies _ _ | .enters _ _ => true
  | .moves _ state => state ≠ .available
  | _ => false

/-- The ending that is in force after an act. -/
def endingAfter (ending : Option (String × Bool)) : Act → Option (String × Bool)
  | .applies _ o => o.ending?.or ending
  | _ => ending

end Act

def outline (acts : List Act) : List Act := acts.filter Act.isStride

/-- The ending that is in force after some acts. -/
def endingOf (ending : Option (String × Bool)) (acts : List Act) : Option (String × Bool) :=
  acts.foldl Act.endingAfter ending

def Cause.script (c : Cause) (outcomes : List Outcome) : List Act := outcomes.map (.applies c)

namespace Graph

variable (g : Graph)

def taking (c : Choice) : List Act := (Cause.choice g.id).script c.outcomes

def entering (n : Node) : List Act :=
  .enters g.id n.id :: (Cause.entry g.id).script n.entryOutcomes

def beginning (n : Node) : List Act := .moves g.id .inProgress :: g.entering n

def completing : List Act :=
  .moves g.id .completed :: (Cause.completion g.id).script g.completion

def failing : List Act := .moves g.id .failed :: (Cause.failure g.id).script g.failure

/-- How a graph in progress comes to its end with the story. -/
def closing : Option (String × Bool) → List Act
  | none => []
  | some (_, true) => g.failing
  | some (_, false) => g.completing

/-- Acts in a graph, and its end if they have triggered an ending. -/
def closed (ending : Option (String × Bool)) (acts : List Act) : List Act :=
  acts ++ g.closing (endingOf ending acts)

/-- How a graph is begun. -/
inductive Begins (ending : Option (String × Bool)) : List Act → Prop
  | mk {n : Node} : n ∈ g.nodes → n.id = g.start → Begins ending (g.closed ending (g.beginning n))

end Graph

/-- How a choice is followed: to the end of the story, to a node, or to the end of its graph and
from there perhaps to another graph. -/
inductive Choice.Follows (c : Choice) (graphs : List Graph) (g : Graph) : List Act → Prop
  | ended : (endingOf none (g.taking c)).isSome = true →
      Follows c graphs g (g.closed none (g.taking c))
  | entered {n : Node} : endingOf none (g.taking c) = none → c.next = .node n.id → n ∈ g.nodes →
      Follows c graphs g (g.closed none (g.taking c ++ g.entering n))
  | completed : endingOf none (g.taking c) = none → (∀ id, c.next ≠ .node id) →
      Follows c graphs g (g.taking c ++ g.completing)
  | chained {h : Graph} {acts : List Act} : endingOf none (g.taking c ++ g.completing) = none →
      c.next = .graph h.id → h ∈ graphs → h.Begins none acts →
      Follows c graphs g (g.taking c ++ g.completing ++ acts)

section Outlines

variable {acts acts' : List Act} {graphs : List Graph} {ending : Option (String × Bool)}

@[simp] theorem outline_nil : outline [] = [] := rfl

@[simp] theorem outline_append : outline (acts ++ acts') = outline acts ++ outline acts' :=
  List.filter_append ..

theorem outline_cons {a : Act} (h : a.isStride = true) : outline (a :: acts) = a :: outline acts :=
  List.filter_cons_of_pos h

theorem Calm.outline_eq {fired : List (Cause × Outcome)} (h : Calm fired acts) :
    outline acts = fired.map fun p => .applies p.1 p.2 := by
  obtain ⟨hcalm, rfl⟩ := h
  induction acts with
  | nil => rfl
  | cons a rest ih =>
    rw [List.forall_mem_cons] at hcalm
    have ih := ih hcalm.2
    unfold outline at *
    rw [List.filter_cons, List.filterMap_cons, ih]
    -- the only calm move opens a graph, which is no stride
    cases a with
    | moves g state =>
      cases state with
      | available => rfl
      | _ => cases hcalm.1
    | applies | asks | remarks => rfl
    | enters | opens | closes | drops | turns => cases hcalm.1

theorem Calm.outline_script {c : Cause} {outcomes : List Outcome}
    (h : Calm (outcomes.map (c, ·)) acts) : outline acts = c.script outcomes := by
  rw [h.outline_eq, List.map_map]
  rfl

theorem fired_outline (c : Cause) (acts : List Act) :
    Act.fired c (outline acts) = Act.fired c acts := by
  have hsame : (outline acts).filterMap Act.application? = acts.filterMap Act.application? := by
    unfold outline
    rw [List.filterMap_filter]
    congr 1
    funext a
    cases a <;> simp [Act.isStride, Act.application?]
  rw [Act.fired, Act.fired, hsame]

theorem countP_isMove_outline (g : String) (acts : List Act) :
    (outline acts).countP (Act.isMove g .completed) = acts.countP (Act.isMove g .completed) := by
  unfold outline
  rw [List.countP_filter]
  congr 1
  funext a
  cases a with
  | moves h state => cases state <;> simp [Act.isMove, Act.isStride]
  | _ => simp [Act.isMove]

/-- Whether acts are balanced shows in their outline. -/
theorem balanced_outline : Balanced graphs (outline acts) ↔ Balanced graphs acts := by
  unfold Balanced
  simp only [fired_outline, countP_isMove_outline]

@[simp] theorem endingOf_nil : endingOf ending [] = ending := rfl

theorem endingOf_append : endingOf ending (acts ++ acts') = endingOf (endingOf ending acts) acts' :=
  List.foldl_append

theorem endingOf_outline : endingOf ending (outline acts) = endingOf ending acts := by
  unfold outline endingOf
  rw [List.foldl_filter]
  congr 1
  funext e a
  cases a <;> simp [Act.isStride, Act.endingAfter]

end Outlines

section Scripts

variable {graphs : List Graph} {g : Graph} {ending : Option (String × Bool)} {acts : List Act}

theorem Cause.balanced_script {c : Cause} (hc : ∀ g, c ≠ .completion g) (outcomes : List Outcome) :
    Balanced graphs (c.script outcomes) := by
  refine .of_none (fun g => ?_) ?_
  · rw [List.countP_eq_zero]
    intro a ha
    obtain ⟨o, _, rfl⟩ := List.mem_map.1 ha
    exact Bool.false_ne_true
  · intro p hp g
    obtain ⟨a, ha, hap⟩ := List.mem_filterMap.1 hp
    obtain ⟨o, _, rfl⟩ := List.mem_map.1 ha
    cases hap
    exact hc g

theorem Balanced.cons {a : Act} (ha : ∀ g, a.isMove g .completed = false)
    (ha' : a.application? = none) (h : Balanced graphs acts) : Balanced graphs (a :: acts) := by
  have hone : Balanced graphs [a] := .of_none (fun g => by simp [ha g]) (by simp [ha'])
  exact hone.append h

namespace Graph

theorem balanced_taking (g : Graph) (c : Choice) : Balanced graphs (g.taking c) :=
  Cause.balanced_script (by simp) _

theorem balanced_entering (g : Graph) (n : Node) : Balanced graphs (g.entering n) :=
  .cons (by simp [Act.isMove]) rfl (Cause.balanced_script (by simp) _)

theorem balanced_beginning (g : Graph) (n : Node) : Balanced graphs (g.beginning n) :=
  .cons (by simp [Act.isMove]) rfl (g.balanced_entering n)

theorem balanced_failing (g : Graph) : Balanced graphs g.failing :=
  .cons (by simp [Act.isMove]) rfl (Cause.balanced_script (by simp) _)

variable (hdistinct : (graphs.map (·.id)).Nodup)
include hdistinct

theorem balanced_completing (hg : g ∈ graphs) : Balanced graphs g.completing := by
  have hcalm : Calm (g.completion.map (Cause.completion g.id, ·))
      ((Cause.completion g.id).script g.completion) := by
    constructor
    · intro a ha
      obtain ⟨o, _, rfl⟩ := List.mem_map.1 ha
      rfl
    · simp [Cause.script, List.filterMap_map, Function.comp_def, Act.application?]
  exact hcalm.balanced_completed hg hdistinct

theorem balanced_closing (hg : g ∈ graphs) (ending : Option (String × Bool)) :
    Balanced graphs (g.closing ending) := by
  unfold closing
  split
  · exact .nil
  · exact g.balanced_failing
  · exact balanced_completing hdistinct hg

theorem balanced_closed (hg : g ∈ graphs) (h : Balanced graphs acts) :
    Balanced graphs (g.closed ending acts) :=
  h.append (balanced_closing hdistinct hg _)

theorem Begins.balanced (hg : g ∈ graphs) (h : g.Begins ending acts) : Balanced graphs acts := by
  obtain ⟨_, _⟩ := h
  exact balanced_closed hdistinct hg (g.balanced_beginning _)

end Graph

theorem Choice.Follows.balanced {c : Choice} (h : c.Follows graphs g acts)
    (hdistinct : (graphs.map (·.id)).Nodup) (hg : g ∈ graphs) : Balanced graphs acts := by
  have htaken : Balanced graphs (g.taking c) := g.balanced_taking c
  have hcompleted := htaken.append (Graph.balanced_completing hdistinct hg)
  cases h with
  | ended => exact Graph.balanced_closed hdistinct hg htaken
  | entered => exact Graph.balanced_closed hdistinct hg (htaken.append (g.balanced_entering _))
  | completed => exact hcompleted
  | chained _ _ hh hbegun => exact hcompleted.append (hbegun.balanced hdistinct hh)

end Scripts

section Runs

variable {cfg : Settings} {reported : Outcome → Prop} {s t : Session} {acts : List Act}

theorem Act.ending_run (cfg : Settings) {a : Act} (ha : a.Lawful reported s) :
    (a.run cfg s).ending = a.endingAfter s.ending := by
  have hmakes := makes cfg ha
  generalize a.run cfg s = t at hmakes ⊢
  cases hmakes with
  | applies happlied => exact happlied.ending
  | _ => rfl

/-- Only outcomes trigger endings. -/
theorem Course.ending_eq (h : Course cfg reported s acts t) :
    t.ending = endingOf s.ending acts := by
  induction h with
  | nil => rfl
  | cons ha _ ih => rw [ih, Act.ending_run cfg ha, endingOf, endingOf, List.foldl_cons]

/-- Only between requests it is laid down anew which services fail. -/
theorem Act.host_run (cfg : Settings) {a : Act} (ha : a.Lawful reported s)
    (hturn : ∀ host, a ≠ .turns host) : s.host.FailsAlike (a.run cfg s).host := by
  have hmakes := makes cfg ha
  generalize a.run cfg s = t at hmakes ⊢
  cases hmakes with
  | applies happlied => exact happlied.host
  | asks halike => exact halike
  | turns => exact absurd rfl (hturn _)
  | _ => exact .of_outages rfl

theorem Course.host_alike (h : Course cfg reported s acts t)
    (hturn : ∀ a ∈ acts, ∀ host, a ≠ .turns host) : s.host.FailsAlike t.host :=
  h.keepsAmong (I := fun u => s.host.FailsAlike u.host) hturn
    (fun _ _ hu hturn ha => hu.trans (Act.host_run cfg ha hturn)) (.of_outages rfl)

/-- An act leaves log and clock as they are, or it closes the open entry. -/
theorem Act.run_history (cfg : Settings) {a : Act} (ha : a.Lawful reported s) :
    ((a.run cfg s).log = s.log ∧ (a.run cfg s).clock = s.clock) ∨
    ∃ p, a = .closes ∧ s.pending = some p ∧ a.run cfg s = s.closed p := by
  have hmakes := makes cfg ha
  generalize a.run cfg s = t at hmakes ⊢
  cases hmakes with
  | applies happlied => exact .inl ⟨happlied.log, happlied.clock⟩
  | closes hp => exact .inr ⟨_, rfl, hp, rfl⟩
  | _ => exact .inl ⟨rfl, rfl⟩

/-- The log stays as it is while an entry is written. -/
theorem Course.log_kept (h : Course cfg reported s acts t)
    (hinner : ∀ a ∈ acts, a.isInner = true) : t.log = s.log := by
  refine h.keepsAmong (I := fun u => u.log = s.log) hinner ?_ rfl
  intro a u hu ha hlawful
  rcases a.run_history cfg hlawful with ⟨hlog, _⟩ | ⟨p, rfl, _⟩
  · exact hlog.trans hu
  · cases ha

end Runs

end Questline
