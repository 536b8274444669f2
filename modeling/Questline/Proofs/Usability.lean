import Questline.Console
import Questline.Proofs.Faltering
import Questline.Proofs.Safety

/-! Settings that pass the check can be used.  Couplings can be entered, all numbers have their
place on the scales, and requirements can be told; but nobody asks whether the titles are worded,
and one that is not breaks off whatever comes to it. -/

namespace Questline

namespace Settings

/-- The couplings of a faction: the other faction of each, and the divisor. -/
abbrev CouplingTable := Assoc Atom (List (Value × Value))

/-- Enters a coupling under one of its factions; every field has to be there. -/
def enterUnder (table : CouplingTable) (pair : Value) (own other : String) :
    Except Fault CouplingTable := do
  let faction ← (← pair.require own).readAtom
  let coupled := (← pair.require other, ← pair.require "divisor")
  pure (Assoc.put table faction (Assoc.getD table faction [] ++ [coupled]))

/-- Enters a coupling under both of its factions. -/
def enter (table : CouplingTable) (pair : Value) : Except Fault CouplingTable := do
  enterUnder (← enterUnder table pair "a" "b") pair "b" "a"

/-- The couplings of a settings tree by faction. -/
def couplingTable (tree : Table) : Except Fault CouplingTable := do
  (← (← (← (Value.table tree).require "reputation").require "COUPLING").elements).foldlM enter []

/-- On the scales all numbers have their place, and whatever is said of a reputation only takes that
the titles that count for it are worded. -/
structure Speaks (cfg : Settings) : Prop where
  title : ∀ value, (∃ title, Scale.reputationTitle cfg value = .ok title) ↔ cfg.Tells value
  level : ∀ value, ∃ level, Scale.relationshipLevel cfg value = .ok level
  threshold : ∀ level ∈ cfg.levels, ∃ bound, Scale.relationshipThreshold cfg level.1 = .ok bound
  requirement : ∀ data r, Requirement.read cfg data = .ok r →
    ((∃ text, r.describe cfg = .ok text) ↔
      (r.kind = .factionLevel → ∀ v ∈ r.value, cfg.Tells v.toInt))
  status : ∀ c : Console, c.engine.session.host.Serves .currentLocation →
    (∃ texts, Console.flagTexts c.engine.session.ledger = .ok texts) →
      ((∃ c', Console.showStatus cfg c = .ok () c') ↔
        ∀ p ∈ c.engine.session.ledger.reputation, cfg.Tells p.2)

/-- Nothing goes wrong because of the settings. -/
structure Usable (tree : Table) : Prop where
  couplings : ∃ table, couplingTable tree = .ok table
  title : ∀ value, ∃ title, Scale.reputationTitle (ofTree tree) value = .ok title
  level : ∀ value, ∃ level, Scale.relationshipLevel (ofTree tree) value = .ok level
  threshold : ∀ level ∈ (ofTree tree).levels,
    ∃ bound, Scale.relationshipThreshold (ofTree tree) level.1 = .ok bound
  requirement : ∀ data r, Requirement.read (ofTree tree) data = .ok r →
    ∃ text, r.describe (ofTree tree) = .ok text
  present : ∀ e, Visited (ofTree tree) e → e.session.host.Answering →
    ∀ graph, ∃ shown e', Engine.present (ofTree tree) graph e = .ok shown e'
  play : ∀ e, Visited (ofTree tree) e → e.session.host.Answering → e.session.pending = none →
    e.Playable (ofTree tree)
  status : ∀ c : Console, c.engine.session.host.Serves .currentLocation →
    (∃ texts, Console.flagTexts c.engine.session.ledger = .ok texts) →
      ∃ c', Console.showStatus (ofTree tree) c = .ok () c'

section Couplings

variable {table : CouplingTable} {item : Value} {c : Coupling} {fields : Table}

theorem enterUnder_eq {own other f g : String} {n : Int}
    (hown : fields.field? own = some (.text f)) (hother : fields.field? other = some (.text g))
    (hdivisor : fields.field? "divisor" = some (.int n)) :
    ∃ table', enterUnder table (.table fields) own other = .ok table' ∧
      ∀ name, Assoc.getD table' (.text name) [] = Assoc.getD table (.text name) [] ++
        if f = name then [(.text g, .int n)] else [] := by
  refine ⟨Assoc.put table (.text f) (Assoc.getD table (.text f) [] ++ [(.text g, .int n)]), ?_,
    fun name => ?_⟩
  · simp only [enterUnder, Value.require, hown, hother, hdivisor, Option.elim_some]
    rfl
  · rw [Assoc.getD, Assoc.get?_put _ (Atom.exact_text _) (Atom.exact_text _)]
    by_cases hname : f = name
    · simp [hname]
    · simp [hname, Ne.symm hname, Assoc.getD]

theorem foldlM_enter {items : List Value} {cs : List Coupling}
    (h : List.Forall₂ (fun item c => c.IsListed item) items cs) (table : CouplingTable) :
    ∃ table', items.foldlM enter table = .ok table' ∧
      ∀ name, Assoc.getD table' (.text name) [] = Assoc.getD table (.text name) [] ++
        (cs.flatMap fun c => (if c.a = name then [(c.b, c.divisor)] else []) ++
          if c.b = name then [(c.a, c.divisor)] else []).map fun p => (.text p.1, .int p.2) := by
  induction h generalizing table with
  | nil => exact ⟨table, rfl, by simp⟩
  | @cons item c items cs hlisted _ ih =>
    obtain ⟨fields, rfl, ha, hb, hdivisor⟩ := hlisted
    obtain ⟨once, honce, hgetOnce⟩ := @enterUnder_eq table _ _ _ _ _ _ ha hb hdivisor
    obtain ⟨twice, htwice, hgetTwice⟩ := @enterUnder_eq once _ _ _ _ _ _ hb ha hdivisor
    obtain ⟨table', hrest, hget⟩ := ih twice
    refine ⟨table', ?_, fun name => ?_⟩
    · rw [List.foldlM_cons, enter, honce]
      exact (congrArg (· >>= _) htwice).trans hrest
    · rw [hget, hgetTwice, hgetOnce]
      by_cases ha : c.a = name <;> by_cases hb : c.b = name <;> simp [ha, hb]

/-- All couplings can be entered, and each faction finds the same ones there as in the settings. -/
theorem Checked.couplingTable_eq {tree : Table} (h : Checked tree) :
    ∃ table, couplingTable tree = .ok table ∧ ∀ name, Assoc.getD table (.text name) [] =
      ((ofTree tree).coupledWith name).map fun p => (.text p.1, .int p.2) := by
  obtain ⟨given, items, hgiven, hitems, hlisted⟩ := h.couplings
  obtain ⟨table, htable, hget⟩ := foldlM_enter (hlisted.imp fun _ _ => And.right) []
  refine ⟨table, ?_, hget⟩
  rw [couplingTable, h.reputation, ok_bind, hgiven, ok_bind, hitems, ok_bind, htable]

end Couplings

end Settings

namespace Console

/-- A step of the console goes through just if a condition is met. -/
def Passes {α : Type} (P : Prop) (x : ConsoleStep α) : Prop :=
  ∀ c, Ends x c (fun _ _ => P) fun _ _ => ¬ P

section Passes

variable {α β : Type} {P Q : Prop} {x : ConsoleStep α} {f : α → ConsoleStep β}

theorem Passes.congr (h : Passes P x) (hPQ : P ↔ Q) : Passes Q x :=
  fun c => (h c).mono (fun _ _ => hPQ.1) fun _ _ => mt hPQ.2

theorem passes_print (s : String) : Passes True (print s) := fun _ => trivial

theorem passes_ofExcept (r : Except Fault α) : Passes (∃ a, r = .ok a) (ofExcept r) := by
  intro c
  cases r with
  | ok a => exact ⟨a, rfl⟩
  | error why => exact nofun

theorem Passes.bind (hx : Passes P x) (hf : ∀ a, Passes Q (f a)) : Passes (P ∧ Q) (x >>= f) := by
  intro c
  rw [ends_bind]
  exact (hx c).mono (fun a t hP => (hf a t).mono (fun _ _ hQ => ⟨hP, hQ⟩) fun _ _ hQ h => hQ h.2)
    fun _ _ hP h => hP h.1

theorem passes_forM {p : α → Prop} {f : α → ConsoleStep Unit} (h : ∀ a, Passes (p a) (f a))
    (l : List α) : Passes (∀ a ∈ l, p a) (l.forM f) := by
  induction l with
  | nil => exact fun _ => nofun
  | cons a rest ih => exact ((h a).bind fun _ => ih).congr List.forall_mem_cons.symm

end Passes

theorem ends_onEngine {α : Type} {x : EngineStep α} {c : Console} {Q : α → Console → Prop}
    {E : Fault → Console → Prop} : Ends (onEngine x) c Q E ↔
      Ends x c.engine (fun a engine => Q a { c with engine }) fun why engine =>
        E why { c with engine } := by
  unfold Ends onEngine
  cases x c.engine <;> rfl

/-- To be told where the player is changes no ledger. -/
theorem ends_location {c : Console} (hserves : c.engine.session.host.Serves .currentLocation) :
    Ends (onEngine (Engine.onSession (Step.onHost Host.currentLocation))) c
      (fun _ c' => c'.engine.session.ledger = c.engine.session.ledger) fun _ _ => False := by
  rw [ends_onEngine, Engine.ends_onSession, Step.ends_onHost, Host.currentLocation, ends_bind]
  exact (Host.ends_call hserves).mono (fun _ _ _ => rfl) fun _ _ h => h

variable {cfg : Settings}

theorem showStatus_ok_iff
    (hlevels : ∀ value, ∃ level, Scale.relationshipLevel cfg value = .ok level)
    {c : Console} (hserves : c.engine.session.host.Serves .currentLocation)
    (hflags : ∃ texts, flagTexts c.engine.session.ledger = .ok texts) :
    (∃ c', showStatus cfg c = .ok () c') ↔ ∀ p ∈ c.engine.session.ledger.reputation,
      ∃ title, Scale.reputationTitle cfg p.2 = .ok title := by
  let told := ∀ p ∈ c.engine.session.ledger.reputation,
    ∃ title, Scale.reputationTitle cfg p.2 = .ok title
  have hends : Ends (showStatus cfg) c (fun _ _ => told) fun _ _ => ¬ told := by
    unfold showStatus
    rw [ends_bind]
    refine (ends_location hserves).mono (fun location c' hledger => ?_) fun _ _ h => h.elim
    rw [ends_bind, print, ends_modify, ends_bind, ends_get]
    refine Passes.congr (.bind (passes_ofExcept _) fun _ => .bind (passes_print _) fun _ =>
      .bind (passes_forM (fun _ => .bind (passes_ofExcept _) fun _ => passes_print _) _) fun _ =>
        .bind (passes_forM (fun _ => .bind (passes_ofExcept _) fun _ => passes_print _) _) fun _ =>
          passes_forM (fun _ => passes_print _) _) ?_ _
    simp [told, hledger, hflags, hlevels, sortedScores, List.mem_mergeSort]
  exact (exists_const Unit).symm.trans hends.ok_iff

end Console

namespace Settings

theorem relationshipThreshold_ok {cfg : Settings} {level : String × Int} (h : level ∈ cfg.levels) :
    ∃ bound, Scale.relationshipThreshold cfg level.1 = .ok bound := by
  unfold Scale.relationshipThreshold
  split
  next bound _ => exact ⟨bound, rfl⟩
  next hnone => exact absurd (beq_self_eq_true _) (List.find?_eq_none.1 hnone level h)

theorem Accepted.speaks {cfg : Settings} (h : cfg.Accepted) : cfg.Speaks := by
  obtain ⟨htitles, hlevels⟩ := h.scaled
  have htitle (value : Int) := @Scale.reputationTitle_eq_ok cfg htitles value
  have hlevel := Scale.relationshipLevel_ok hlevels
  constructor
  case title => exact htitle
  case level => exact hlevel
  case threshold => exact fun _ => relationshipThreshold_ok
  case requirement =>
    exact fun _ _ hread => h.describe_eq_ok (Requirement.regular_of_read hread).toFormed
  case status =>
    intro c hserves hflags
    simp only [Console.showStatus_ok_iff hlevel hserves hflags, htitle]

end Settings

/-- Where facts can be had, there is an answer whether a graph or the current quest is asked for. -/
theorem Engine.Sturdy.present_ok {cfg : Settings} {e : Engine} (h : e.Sturdy)
    (hanswers : e.session.host.Answering) (hcfg : cfg.Describes) (graph : Option String) :
    ∃ shown e', Engine.present cfg graph e = .ok shown e' := by
  have hsome (g : String) : ∃ shown e', Engine.present cfg (some g) e = .ok shown e' := by
    obtain ⟨shown, _, _, hpresent⟩ := h.presents hanswers hcfg g
    exact ⟨shown, _, hpresent⟩
  cases graph with
  | some g => exact hsome g
  | none =>
    unfold Engine.present
    rw [run_get, Option.none_or]
    cases hcurrent : e.session.currentGraph with
    | none => exact ⟨none, e, rfl⟩
    | some g => exact hsome g

end Questline
