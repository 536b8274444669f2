import Questline.Proofs.Plays

/-! The pass that makes graphs available.  It judges every graph by the ledger as it was when the
pass began; what the pass itself changes in the meantime does not bear on any requirement. -/

namespace Questline

/-- No error inside has been remarked upon in an entry. -/
def Pending.Mild (p : Pending) : Prop := ∀ m ∈ p.diagnostics, isInternal m = false

/-- The session goes on writing the same entry. -/
structure Pending.Continues (p q : Pending) : Prop where
  kind : q.kind = p.kind
  graph : q.graph = p.graph
  node : q.node = p.node
  choice : q.choice = p.choice
  source : q.source = p.source
  mild : p.Mild → q.Mild

namespace Pending

theorem Mild.append {p : Pending} (h : p.Mild) {messages : List String}
    (hmessages : ∀ m ∈ messages, isInternal m = false) :
    ({ p with diagnostics := p.diagnostics ++ messages } : Pending).Mild :=
  fun m hm => (List.mem_append.1 hm).elim (h m) (hmessages m)

theorem Continues.rfl {p : Pending} : p.Continues p :=
  ⟨.refl _, .refl _, .refl _, .refl _, .refl _, id⟩

theorem Continues.trans {p q r : Pending} (h : p.Continues q) (h' : q.Continues r) :
    p.Continues r :=
  ⟨h'.kind.trans h.kind, h'.graph.trans h.graph, h'.node.trans h.node, h'.choice.trans h.choice,
    h'.source.trans h.source, h'.mild ∘ h.mild⟩

end Pending

/-- A graph is still played as far as an instance says. -/
def Session.Has (s : Session) (i : Instance) : Prop :=
  ∃ j, s.instance? i.graph.id = some j ∧ j.graph = i.graph ∧ j.lifecycle = i.lifecycle ∧
    j.activeNode = i.activeNode

/-- A session in which an entry is being written. -/
structure Session.Working (s : Session) : Prop where
  agrees : s.Agrees
  sound : s.Sound
  entry : s.inEntry = true

/-- A session in which the host has been asked something. -/
def Asked (s t : Session) : Prop := ∃ outages, t = { s with host := { s.host with outages } }

/-- Two ledgers that meet the same requirements. -/
def Ledger.Alike (l m : Ledger) : Prop := ∀ (r : Requirement) (h : Host), r.fact l h = r.fact m h

section Kept

variable {cfg : Settings} {reported : Outcome → Prop} {s t : Session} {acts : List Act}

theorem Session.Has.of_instance? {g : String} {i : Instance} (h : s.instance? g = some i) :
    s.Has i := ⟨i, id_of_instance? h ▸ h, rfl, rfl, rfl⟩

theorem Act.pending_run (cfg : Settings) {a : Act} (ha : a.isInner = true) (s : Session) :
    ∃ f : Pending → Pending, (a.run cfg s).pending = s.pending.map f ∧
      ∀ p : Pending, p.Continues (f p) := by
  cases a with
  | applies c o =>
    obtain ⟨messages, hmessages, hpending⟩ := (Act.applied cfg c o s).pending
    exact ⟨_, hpending, fun _ =>
      ⟨rfl, rfl, rfl, rfl, rfl, fun hp => hp.append hmessages⟩⟩
  | moves g state =>
    rw [run_moves]
    exact ⟨_, rfl, fun _ => ⟨rfl, rfl, rfl, rfl, rfl, id⟩⟩
  | enters g n => exact ⟨id, (congrFun Option.map_id _).symm, fun _ => .rfl⟩
  | asks service =>
    obtain ⟨outages, hrun⟩ := run_asks cfg s service
    rw [hrun]
    exact ⟨id, (congrFun Option.map_id _).symm, fun _ => .rfl⟩
  | remarks message =>
    refine ⟨_, rfl, fun _ => ⟨rfl, rfl, rfl, rfl, rfl, fun hp => hp.append ?_⟩⟩
    simpa [isInner] using ha
  | opens | closes | drops | turns => cases ha

theorem Course.entry_kept {p : Pending} (h : Course cfg reported s acts t)
    (hinner : ∀ a ∈ acts, a.isInner = true) (hp : s.pending = some p) :
    ∃ q, t.pending = some q ∧ p.Continues q := by
  refine h.keepsAmong (I := fun u => ∃ q, u.pending = some q ∧ p.Continues q) hinner ?_
    ⟨p, hp, .rfl⟩
  rintro a u ⟨q, hq, hcont⟩ ha _
  obtain ⟨f, hf, hcont'⟩ := a.pending_run cfg ha u
  exact ⟨f q, by rw [hf, hq]; rfl, hcont.trans (hcont' q)⟩

theorem Course.inEntry_kept (h : Course cfg reported s acts t)
    (hinner : ∀ a ∈ acts, a.isInner = true) (hs : s.inEntry = true) : t.inEntry = true := by
  obtain ⟨p, hp⟩ := Option.isSome_iff_exists.1 hs
  obtain ⟨q, hq, _⟩ := h.entry_kept hinner hp
  exact Option.isSome_iff_exists.2 ⟨q, hq⟩

theorem Session.Working.course (h : s.Working) (hc : Course cfg reported s acts t)
    (hinner : ∀ a ∈ acts, a.isInner = true) : t.Working :=
  ⟨h.agrees.course h.sound hc, h.sound.course hc, hc.inEntry_kept hinner h.entry⟩

/-- Calm acts leave every graph as it is that has become available. -/
theorem Course.has_kept {i : Instance} {fired : List (Cause × Outcome)}
    (h : Course cfg reported s acts t) (hcalm : Calm fired acts)
    (hi : i.lifecycle ≠ .unavailable) (hs : s.Has i) : t.Has i := by
  refine h.keepsAmong (I := fun u => u.Has i) hcalm.calm ?_ hs
  rintro a u ⟨j, hj, hgraph, hlife, hnode⟩ ha hlawful
  refine ⟨a.onInstance j, by rw [Act.instance?_run cfg hlawful, hj]; rfl, ?_⟩
  cases a with
  | applies c o => simp [Act.onInstance, hgraph, hlife, hnode]
  | moves g state =>
    obtain ⟨_, k, hk, hchange⟩ := hlawful
    have hother : j.graph.id ≠ g := by
      rintro rfl
      rw [hgraph] at hk
      cases hj.symm.trans hk
      cases state <;> cases ha
      cases hchange with
      | opened hun => exact hi (hlife ▸ hun)
    rw [Act.onInstance, if_neg hother]
    exact ⟨hgraph, hlife, hnode⟩
  | asks service => exact ⟨hgraph, hlife, hnode⟩
  | remarks message => exact ⟨hgraph, hlife, hnode⟩
  | enters | opens | closes | drops | turns => cases ha

end Kept

theorem Asked.refl (s : Session) : Asked s s := ⟨s.host.outages, rfl⟩

theorem Asked.trans {s t u : Session} (h : Asked s t) (h' : Asked t u) : Asked s u := by
  obtain ⟨outages, rfl⟩ := h
  obtain ⟨outages', rfl⟩ := h'
  exact ⟨outages', rfl⟩

theorem Asked.working {s t : Session} (h : Asked s t) (hs : s.Working) : t.Working := by
  obtain ⟨outages, rfl⟩ := h
  exact ⟨hs.agrees.of_same rfl rfl, hs.sound.congr rfl, hs.entry⟩

namespace Requirement

theorem fact_outages (r : Requirement) (l : Ledger) (h : Host) (outages : Assoc Service Outage) :
    r.fact l { h with outages } = r.fact l h := by
  unfold fact
  split <;> rfl

theorem holds_outages (r : Requirement) (l : Ledger) (h : Host) (outages : Assoc Service Outage) :
    r.holds l { h with outages } = r.holds l h := by
  rw [holds, holds, fact_outages]

theorem holds_alike {l m : Ledger} (h : l.Alike m) (r : Requirement) (host : Host) :
    r.holds l host = r.holds m host := by
  rw [holds, holds, h]

end Requirement

namespace Ledger.Alike

theorem refl (l : Ledger) : l.Alike l := fun _ _ => rfl

theorem trans {l m n : Ledger} (h : l.Alike m) (h' : m.Alike n) : l.Alike n :=
  fun r host => (h r host).trans (h' r host)

/-- No requirement is about a graph's being available. -/
theorem setState {l : Ledger} {g : String} (h : l.stateOf g ≠ .completed) :
    (l.setState g .available).Alike l := by
  intro r host
  unfold Requirement.fact
  split <;> try rfl
  rw [stateOf_setState]
  split
  next he => simp [he, h]
  next => rfl

end Ledger.Alike

namespace Step

variable {cfg : Settings} {reported : Outcome → Prop} {s : Session}

theorem onHost_bind {α β : Type} (x : HostStep α) (f : α → HostStep β) :
    onHost (x >>= f) = onHost x >>= fun a => onHost (f a) := by
  funext s
  unfold onHost
  simp only [bind, EStateM.bind]
  cases x s.host <;> rfl

theorem plays_call (service : Service) :
    Plays cfg reported (onHost (Host.call service)) s (fun acts _ t => Calm [] acts ∧ Asked s t)
      fun acts t => Calm [] acts ∧ Asked s t := by
  have hasked : Asked s ((Act.asks service).run cfg s) := Act.run_asks cfg s service
  have hcalm : Calm [] [Act.asks service] := ⟨by simp [Act.isCalm], rfl⟩
  exact .act (a := .asks service) trivial (ends_of_after (P := (· = after _ s)) rfl)
    ⟨hcalm, hasked⟩ ⟨hcalm, hasked⟩

theorem plays_evaluate (r : Requirement) (l : Ledger) :
    Plays cfg reported (onHost (r.evaluate l)) s
      (fun acts b t => Calm [] acts ∧ Asked s t ∧ b = r.holds l s.host)
      fun acts t => Calm [] acts ∧ Asked s t := by
  have answer (t : Session) (ht : Asked s t) :
      Plays cfg reported (onHost (r.judged l)) t
        (fun acts b u => Calm [] acts ∧ Asked s u ∧ b = r.holds l s.host)
        fun acts u => Calm [] acts ∧ Asked s u := by
    obtain ⟨outages, rfl⟩ := ht
    have hholds := r.holds_outages l s.host outages
    unfold Requirement.holds at hholds
    unfold Plays Ends onHost Requirement.judged
    rw [run_get]
    cases hcompare : r.compare (r.fact l { s.host with outages }) with
    | error why => exact ⟨[], .nil _, .nil, outages, rfl⟩
    | ok b =>
      refine ⟨[], .nil _, .nil, ⟨outages, rfl⟩, ?_⟩
      rw [hcompare] at hholds
      exact hholds
  cases hservice : r.service? with
  | none =>
    rw [Requirement.evaluate_of_unasked hservice]
    exact answer s (.refl s)
  | some service =>
    rw [Requirement.evaluate_of_asked hservice, onHost_bind]
    refine (plays_call service).bind fun acts _ t _ hcalled => ?_
    exact (answer t hcalled.2).mono (fun _ _ _ h => ⟨hcalled.1.append h.1, h.2⟩)
      fun _ _ h => ⟨hcalled.1.append h.1, h.2⟩

theorem plays_allMet (l : Ledger) (requirements : List Requirement) :
    Plays cfg reported (onHost (Requirement.allMet l requirements)) s
      (fun acts b t => Calm [] acts ∧ Asked s t ∧
        (b = true → ∀ r ∈ requirements, r.holds l s.host = true))
      fun acts t => Calm [] acts ∧ Asked s t := by
  induction requirements generalizing s with
  | nil => exact .pure ⟨.nil, .refl s, by simp⟩
  | cons r rest ih =>
    rw [Requirement.allMet, onHost_bind]
    refine (plays_evaluate r l).bind fun acts b t _ ⟨hcalm, hasked, hb⟩ => ?_
    cases b with
    | false => exact .pure ⟨hcalm.append .nil, hasked, by simp⟩
    | true =>
      refine ih.mono (fun _ b u ⟨hcalm', hasked', hall⟩ => ?_) fun _ _ h =>
        ⟨hcalm.append h.1, hasked.trans h.2⟩
      refine ⟨hcalm.append hcalm', hasked.trans hasked', fun hb' => ?_⟩
      obtain ⟨outages, rfl⟩ := hasked
      refine List.forall_mem_cons.2 ⟨hb.symm, fun r hr => ?_⟩
      rw [← r.holds_outages l s.host outages]
      exact hall hb' r hr

theorem plays_open {l : Ledger} {i : Instance} (hl : s.ledger.Alike l) (hs : s.Working)
    (hi : s.instance? i.graph.id = some i) (hready : isWaiting i = true)
    (hmet : ∀ r ∈ i.graph.requirements, r.holds l s.host = true) :
    Plays cfg reported (transition i.graph.id .available) s
      (fun acts _ t => Calm [] acts ∧ t.ledger.Alike l ∧
        ∀ j : Instance, j.graph.id ≠ i.graph.id → s.instance? j.graph.id = some j →
          t.instance? j.graph.id = some j)
      fun acts _ => Calm [] acts := by
  rw [isWaiting, Bool.and_eq_true, decide_eq_true_eq] at hready
  have hlawful : (Act.moves i.graph.id .available).Lawful reported s := by
    refine ⟨hs.entry, i, hi, .opened hready.1 (by simpa using hready.2) fun r hr => ?_⟩
    rw [r.holds_alike hl]
    exact hmet r hr
  have hone : Calm [] [Act.moves i.graph.id .available] := ⟨by simp [Act.isCalm], rfl⟩
  refine .act hlawful (ends_of_after (P := (· = after _ _)) rfl) ⟨hone, ?_, ?_⟩ hone
  · rw [Act.run_moves]
    refine .trans (m := s.ledger) (.setState ?_) hl
    change s.ledger.stateOf _ ≠ _
    rw [← (hs.agrees.placed i (Session.mem_of_instance? hi)).recorded, hready.1]
    simp
  · intro j hother hj
    rw [Act.instance?_run cfg hlawful, hj, Option.map_some, Act.onInstance, if_neg hother]

/-- What a pass over the availability of graphs does. -/
theorem plays_promote {l : Ledger} {waiting : List Instance} (hl : s.ledger.Alike l)
    (hs : s.Working) (hdistinct : (waiting.map (·.graph.id)).Nodup)
    (hwaiting : ∀ i ∈ waiting, s.instance? i.graph.id = some i) :
    Plays cfg reported (promote l waiting) s (fun acts _ _ => Calm [] acts)
      fun acts _ => Calm [] acts := by
  induction waiting generalizing s with
  | nil => exact .pure .nil
  | cons i rest ih =>
    rw [List.map_cons, List.nodup_cons] at hdistinct
    rw [List.forall_mem_cons] at hwaiting
    have hothers : ∀ j ∈ rest, j.graph.id ≠ i.graph.id := fun j hj he =>
      hdistinct.1 (he ▸ List.mem_map_of_mem (f := fun i : Instance => i.graph.id) hj)
    rw [promote]
    by_cases hready : isWaiting i = true
    · rw [if_pos hready]
      refine ((plays_allMet l _).mono (fun _ _ _ h => h) fun _ _ h => h.1).bind
        fun acts met t _ hall => ?_
      obtain ⟨hcalm, hasked, hmet⟩ := hall
      have ht := hasked.working hs
      have htl : t.ledger.Alike l := by
        obtain ⟨_, rfl⟩ := hasked
        exact hl
      have htwaiting (j : Instance) (hj : s.instance? j.graph.id = some j) :
          t.instance? j.graph.id = some j := by
        obtain ⟨_, rfl⟩ := hasked
        exact hj
      cases met with
      | false =>
        exact (ih htl ht hdistinct.2 fun j hj => htwaiting j (hwaiting.2 j hj)).mono
          (fun _ _ _ h => hcalm.append h) fun _ _ h => hcalm.append h
      | true =>
        have hmet' : ∀ r ∈ i.graph.requirements, r.holds l t.host = true := by
          intro r hr
          obtain ⟨_, rfl⟩ := hasked
          rw [r.holds_outages]
          exact hmet rfl r hr
        rw [if_pos rfl]
        -- the change that is put on record bears on no requirement of the graphs to come
        refine ((plays_open htl ht (htwaiting i hwaiting.1) hready hmet').mono
          (fun _ _ _ h => h) fun _ _ h => hcalm.append h).bind
            fun acts' _ u hc hopened => ?_
        obtain ⟨hcalm', hul, hkept⟩ := hopened
        refine (ih hul (ht.course hc hcalm'.inner) hdistinct.2 fun j hj =>
          hkept j (hothers j hj) (htwaiting j (hwaiting.2 j hj))).mono
            (fun _ _ _ h => hcalm.append (hcalm'.append h)) fun _ _ h =>
              hcalm.append (hcalm'.append h)
    · rw [if_neg hready]
      exact ih hl hs hdistinct.2 hwaiting.2

theorem plays_refreshAvailability (hs : s.Working) :
    Plays cfg reported refreshAvailability s (fun acts _ _ => Calm [] acts)
      fun acts _ => Calm [] acts :=
  plays_promote (.refl _) hs hs.sound.distinct fun _ hi =>
    Session.instance?_of_mem hs.sound.distinct hi

end Step

end Questline
