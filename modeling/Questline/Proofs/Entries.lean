import Questline.Proofs.Ledgers
import Questline.Proofs.Transitions
import Questline.Proofs.Visiting

/-! One request, one entry or nothing.  A request that is granted leaves a single entry behind,
which tells all outcomes in authored order and all changes of lifecycle as they came; a request that
is declined leaves nothing behind. -/

namespace Questline

namespace Call

/-- A request to the story, or a report from outside it. -/
def isRequest : Call → Bool
  | .start _ | .choose _ _ | .abandon _ | .external _ _ => true
  | _ => false

/-- The acts that a request stands for. -/
def Script (s : Session) : Call → List Act → Prop
  | .start g, script => ∃ i, s.instance? g = some i ∧ i.graph.Begins none script
  | .choose g choice, script => ∃ i n c, s.Faces g choice i n c ∧
      c.unmet s.ledger s.host n = [] ∧ c.Follows s.graphs i.graph script
  | .abandon g, script => ∃ i, s.instance? g = some i ∧ script = i.graph.failing
  | .external reports source, script => ∃ outcomes,
      Engine.readReports source 0 reports = .ok outcomes ∧ script = Cause.report.script outcomes
  | _, _ => False

/-- Whatever is reported as data are tables of named fields with a text as their kind. -/
def IsPlain : Call → Prop
  | .external reports _ => ∀ v, .data v ∈ reports → ∃ (fields : Table) (kind : String),
      v = .table fields ∧ Atom.Texts (Assoc.keys fields) ∧ fields.field? "kind" = some (.text kind)
  | _ => True

end Call

namespace Answer

def Accepts (entry : Entry) : Answer → Prop
  | .resolved r => r.accepted = true ∧ r.entry = some entry
  | .applied r => r = .ok (some entry)
  | _ => False

/-- The entry of an answer that accepts a request. -/
def written? : Answer → Option Entry
  | .resolved r => if r.accepted then r.entry else none
  | .applied (.ok written) => written
  | _ => none

def Declines : Answer → Prop
  | .resolved r => r.accepted = false
  | .applied r => r = .ok none
  | _ => False

end Answer

/-- A request has left one entry behind, which tells all that was done. -/
structure Call.Granted (cfg : Settings) (c : Call) (e : Engine) (entry : Entry) : Prop where
  log : (c.after cfg e).session.log.entries = e.session.log.entries ++ [entry]
  id : entry.id = e.session.log.nextId
  told : ∃ script acts, c.Script e.session script ∧ outline acts = script ∧
    Course cfg c.Reports e.session acts (c.after cfg e).session ∧
    entry.outcomes = script.flatMap (·.notes) ∧ entry.transitions = acts.flatMap (·.changes)
  points : ∀ r, (c.ask cfg e).1 = .resolved r → r.Points (c.after cfg e).session

/-- Nothing has happened, except that the host has been asked and something remarked. -/
structure Engine.Spared (e e' : Engine) : Prop where
  session : Asked e.session e'.session
  diagnostics : e.diagnostics <+: e'.diagnostics

/-- How a request comes out. -/
structure Call.Settles (cfg : Settings) (c : Call) (e : Engine) : Prop where
  granted : ∀ entry, (c.ask cfg e).1.Accepts entry → c.Granted cfg e entry
  declined : (c.ask cfg e).1.Declines → e.Spared (c.after cfg e)
  answered : c.IsPlain → (∃ entry, (c.ask cfg e).1.Accepts entry) ∨ (c.ask cfg e).1.Declines

variable {cfg : Settings} {e : Engine} {c : Call}

theorem Answer.accepts_iff {a : Answer} {entry : Entry} :
    a.Accepts entry ↔ a.written? = some entry := by
  cases a with
  | resolved r => simp [Accepts, written?]
  | applied r => cases r <;> simp [Accepts, written?]
  | _ => simp [Accepts, written?]

theorem Answer.exists_accepts {a : Answer} (h : a.written?.isSome = true) :
    ∃ entry, a.Accepts entry := by
  obtain ⟨entry, hentry⟩ := Option.isSome_iff_exists.1 h
  exact ⟨entry, accepts_iff.2 hentry⟩

theorem Answer.Accepts.unique {a : Answer} {entry entry' : Entry} (h : a.Accepts entry)
    (h' : a.Accepts entry') : entry' = entry := by
  cases a with
  | resolved r => exact Option.some.inj (h'.2.symm.trans h.2)
  | applied r =>
    cases h.symm.trans h'
    rfl
  | _ => cases h

theorem Answer.Accepts.not_declines {a : Answer} {entry : Entry} (h : a.Accepts entry) :
    ¬ a.Declines := by
  intro hd
  cases a with
  | resolved r => exact Bool.false_ne_true (hd.symm.trans h.1)
  | applied r => cases h.symm.trans hd
  | _ => cases h

theorem flatMap_notes_outline (acts : List Act) :
    (outline acts).flatMap (·.notes) = acts.flatMap (·.notes) := by
  induction acts with
  | nil => rfl
  | cons a rest ih =>
    unfold outline at *
    rw [List.filter_cons]
    split
    next => rw [List.flatMap_cons, List.flatMap_cons, ih]
    next hstride => cases a <;> simp_all [Act.isStride, Act.notes]

/-- An entry that is all that a course leaves behind tells what was done on it. -/
theorem Session.Gains.told {reported : Outcome → Prop} {s t : Session} {acts : List Act}
    {entry : Entry} (h : s.Gains entry t) (hidle : s.pending = none)
    (hc : Course cfg reported s acts t) :
    entry.outcomes = (outline acts).flatMap (·.notes) ∧
      entry.transitions = acts.flatMap (·.changes) := by
  have hnoted := hc.noted_eq
  have hchanges := hc.changes_eq
  unfold Session.noted EventLog.noted at hnoted
  unfold Session.changes EventLog.changes at hchanges
  rw [h.closed, hidle, h.log] at hnoted hchanges
  rw [flatMap_notes_outline]
  exact ⟨by simpa using hnoted, by simpa using hchanges⟩

/-- A request whose course is kept by one entry has been granted with it. -/
theorem Call.Granted.of_gains {t : Session} {acts : List Act} {entry : Entry}
    (hafter : (c.after cfg e).session = t) (hidle : e.session.pending = none)
    (hc : Course cfg c.Reports e.session acts t) (hscript : c.Script e.session (outline acts))
    (hgains : e.session.Gains entry t)
    (hpoints : ∀ r, (c.ask cfg e).1 = .resolved r → r.Points t) : c.Granted cfg e entry := by
  subst hafter
  obtain ⟨houtcomes, htransitions⟩ := hgains.told hidle hc
  exact ⟨hgains.log, hgains.id, ⟨_, acts, hscript, rfl, hc, houtcomes, htransitions⟩, hpoints⟩

namespace Call.Settles

theorem of_accepts {entry : Entry} (ha : (c.ask cfg e).1.Accepts entry)
    (hg : c.Granted cfg e entry) : c.Settles cfg e :=
  ⟨fun _ h => ha.unique h ▸ hg, fun h => absurd h ha.not_declines, fun _ => .inl ⟨entry, ha⟩⟩

theorem of_declines (hd : (c.ask cfg e).1.Declines) (hs : e.Spared (c.after cfg e)) :
    c.Settles cfg e :=
  ⟨fun _ h => absurd hd h.not_declines, fun _ => hs, fun _ => .inr hd⟩

end Call.Settles

section Handling

variable {x : Step Resolution} {g : String} {choice : Option String}
  {opened : EntryKind × Option String} {refuses : IllegalChoice → Prop}

/-- A request that is granted has done what its script says, and its entry tells of it. -/
theorem Handles.granted {entry : Entry}
    (hx : Handles cfg c.Reports x e.session opened (c.Script e.session) refuses)
    (hask : c.ask cfg e = (Engine.request g choice x e).map .resolved id)
    (hidle : e.session.pending = none) (ha : (c.ask cfg e).1.Accepts entry) :
    c.Granted cfg e entry := by
  unfold Handles Ends at hx
  cases hrun : x e.session with
  | error why t =>
    rw [hask, Engine.request, hrun] at ha
    cases ha.1
  | ok r t =>
    rw [hrun] at hx
    obtain ⟨acts, hc, _, hl, written, hgains, hgrants⟩ := hx
    have hanswer : c.ask cfg e =
        (.resolved r, { session := t, diagnostics := e.diagnostics ++ r.diagnostics }) := by
      rw [hask, Engine.request, hrun]
      rfl
    have hafter : (c.after cfg e).session = t := by rw [Call.after, hanswer]
    rw [hanswer] at ha
    obtain rfl : written = entry := Option.some.inj (hgrants.entry.symm.trans ha.2)
    refine .of_gains hafter hidle hc hl hgains fun r' hr' => ?_
    rw [hanswer] at hr'
    cases hr'
    exact hgrants.active

/-- A request that is handled comes out one way or the other. -/
theorem Handles.settles
    (hx : Handles cfg c.Reports x e.session opened (c.Script e.session) refuses)
    (hask : c.ask cfg e = (Engine.request g choice x e).map .resolved id)
    (hidle : e.session.pending = none) (hsure : e.session.Sure) : c.Settles cfg e := by
  have hends := hx
  unfold Handles Ends at hends
  cases hrun : x e.session with
  | ok r t =>
    rw [hrun] at hends
    obtain ⟨_, _, _, _, written, _, hgrants⟩ := hends
    have haccepts : (c.ask cfg e).1.Accepts written := by
      rw [hask, Engine.request, hrun]
      exact ⟨hgrants.accepted, hgrants.entry⟩
    exact .of_accepts haccepts (hx.granted hask hidle haccepts)
  | error why t =>
    rw [hrun] at hends
    obtain ⟨_, _, _, ⟨hasked, _⟩ | ⟨_, _, hno⟩⟩ := hends
    · -- refused before any entry was opened
      have hanswer : c.ask cfg e = (.resolved (.rejected g choice (Engine.rejection why)),
          { session := t, diagnostics := e.diagnostics ++ [Engine.rejection why] }) := by
        rw [hask, Engine.request, hrun]
        rfl
      refine .of_declines (by rw [hanswer]; rfl) ?_
      rw [Call.after, hanswer]
      exact ⟨hasked, List.prefix_append _ _⟩
    · -- broken off on the way, which takes a fact that cannot be had
      exact absurd hsure hno

end Handling

/-- A reading that can only be refused. -/
def OnlyRefused {α : Type} (x : Except Fault α) : Prop :=
  ∀ why, x = .error why → why.isRefusal = true

namespace OnlyRefused

variable {α β : Type}

theorem ok (a : α) : OnlyRefused (.ok a) := nofun

theorem refused (why : Refusal) : OnlyRefused (.error (.refused why) : Except Fault α) := by
  rintro _ h
  cases h
  rfl

theorem bind {x : Except Fault α} {f : α → Except Fault β} (hx : OnlyRefused x)
    (hf : ∀ a, OnlyRefused (f a)) : OnlyRefused (x >>= f) := by
  cases x with
  | ok a => exact hf a
  | error why => exact fun why' h => hx why' (by cases h; rfl)

theorem readSpelling [Vocabulary α] (s : String) :
    OnlyRefused ((Value.text s).readSpelling α) := by
  unfold Value.readSpelling
  dsimp only
  cases (Vocabulary.ofSpelling? s : Option α) with
  | none => exact refused _
  | some kind => exact ok kind

theorem checkFields (kind : OutcomeKind) {fields : Table}
    (hfields : Atom.Texts (Assoc.keys fields)) :
    OnlyRefused (Outcome.checkFields kind fields) := by
  unfold Outcome.checkFields
  generalize hextra : (fields.map Prod.fst).filter _ = extra
  cases extra with
  | nil => exact ok _
  | cons k rest =>
    obtain ⟨sorted, hsorted, _⟩ := Atom.sort_texts (l := k :: rest) fun k hk =>
      hfields k (List.mem_of_mem_filter (hextra ▸ hk))
    dsimp only
    rw [hsorted]
    exact refused _

theorem readParts (kind : OutcomeKind) (fields : Table) :
    OnlyRefused (Outcome.readTarget kind fields) ∧ OnlyRefused (Outcome.readAmount kind fields) ∧
      OnlyRefused (Outcome.readFail kind fields) ∧
      OnlyRefused (Outcome.checkFlagValue kind fields) := by
  unfold Outcome.readTarget Outcome.readAmount Outcome.readFail Outcome.checkFlagValue
  refine ⟨?_, ?_, ?_, ?_⟩
  all_goals
    repeat' split
    all_goals first | exact ok _ | exact refused _

/-- Fields whose names are texts, the kind being one too, are read or refused. -/
theorem readFields {fields : Table} {kind : String} (hfields : Atom.Texts (Assoc.keys fields))
    (hkind : fields.field? "kind" = some (.text kind)) (id : Option Value) :
    OnlyRefused (Outcome.readFields fields id) := by
  unfold Outcome.readFields
  rw [hkind, Option.elim_some, ok_bind]
  refine (readSpelling kind).bind fun kind => ?_
  obtain ⟨target, amount, fail, flag⟩ := readParts kind fields
  refine target.bind fun target? => ?_
  split
  · exact refused _
  · exact amount.bind fun _ => fail.bind fun _ => flag.bind fun _ =>
      (checkFields kind hfields).bind fun _ => ok _

theorem readReports {reports : List Report} {source : String}
    (h : (Call.external reports source).IsPlain) (place : Nat) :
    OnlyRefused (Engine.readReports source place reports) := by
  induction reports generalizing place with
  | nil => exact ok _
  | cons r rest ih =>
    have hrest := ih fun v hv => h v (List.mem_cons_of_mem _ hv)
    cases r with
    | ready o => exact (hrest (place + 1)).bind fun _ => ok _
    | data v =>
      obtain ⟨fields, kind, rfl, hfields, hkind⟩ := h v List.mem_cons_self
      exact (readFields hfields hkind _).bind fun _ => (hrest (place + 1)).bind fun _ => ok _

end OnlyRefused

/-- Outcomes from outside come out one way or the other, if they can be read at all. -/
theorem Engine.Sturdy.settles_external (h : e.Sturdy) (hidle : e.session.pending = none)
    (reports : List Report) (source : String) :
    (Call.external reports source).Settles cfg e := by
  rcases applyExternal_cases cfg reports source e with
    ⟨message, hanswer⟩ | ⟨why, hread, hrefusal, hanswer⟩ | ⟨outcomes, hread, happlied⟩
  · have hask : (Call.external reports source).ask cfg e = (.applied (.ok none), _) :=
      Call.answer_ok hanswer .applied
    refine .of_declines (by rw [hask]; rfl) ?_
    rw [Call.after, hask]
    exact ⟨.refl _, List.prefix_append _ _⟩
  · have hask : (Call.external reports source).ask cfg e = (.applied (.error why), _) :=
      Call.answer_error hanswer .applied
    refine ⟨fun entry ha => ?_, fun hd => ?_, fun hplain => ?_⟩
    · rw [hask] at ha
      cases ha
    · rw [hask] at hd
      cases hd
    · cases hrefusal.symm.trans (OnlyRefused.readReports hplain 0 why hread)
  · have hplays : Plays cfg (Call.external reports source).Reports
        (Step.applyAsEntry cfg {} outcomes .external none none none (some source)) e.session _ _ :=
      Step.plays_applyAsEntry h.consistent.agrees h.consistent.sound
        (fun o ho => ⟨reports, source, outcomes, rfl, hread, ho⟩) (some source)
    have hboth := Ends.and happlied hplays
    unfold Ends at hboth
    split at hboth
    next entry t _ =>
      obtain ⟨⟨messages, hanswer⟩, acts, hc, _, hl, hgains⟩ := hboth
      have hask : (Call.external reports source).ask cfg e = (.applied (.ok (some entry)), _) :=
        Call.answer_ok hanswer .applied
      have hafter : ((Call.external reports source).after cfg e).session = t := by
        rw [Call.after, hask]
      have haccepts : ((Call.external reports source).ask cfg e).1.Accepts entry := by
        rw [hask]
        rfl
      refine .of_accepts haccepts (.of_gains hafter hidle hc ⟨outcomes, hread, hl⟩ hgains ?_)
      intro r hr
      rw [hask] at hr
      cases hr
    next why t _ =>
      obtain ⟨-, acts, -, -, hopen, -⟩ := hboth
      rw [Session.inEntry, hidle] at hopen
      cases hopen

end Questline
