import Questline.Proofs.Obeying

/-! Whatever is typed.  A console goes on until it is told to stop, the lines are used up or the
story has ended, and at every prompt the numbers stand for the choices that have just been shown.
It breaks off only at a command that cannot be obeyed. -/

namespace Questline

namespace Console

/-- Takes the line that has been asked for, and does what it says. -/
@[irreducible] def reply (cfg : Settings) (line : String) : ConsoleStep Bool := do
  modify fun c => { c with input := c.input.drop 1 }
  handle cfg line

/-- A console comes to a prompt when some lines have been read. -/
inductive Prompts (cfg : Settings) : Console → List String → Console → Prop
  | first {c p : Console} : c.engine.session.ending = none → ask cfg c = .ok () p →
      Prompts cfg c [] p
  | next {c d p : Console} {line : String} {rest : List String} :
      c.engine.session.ending = none → turn cfg (some line) c = .ok true d →
      Prompts cfg d rest p → Prompts cfg c (line :: rest) p

/-- What a prompt offers.  The legal choices have just been put out by their numbers.  A line that
is the number of one of them takes it, and a line that is another number, or no command at all,
leaves the engine as it is. -/
structure Offers (cfg : Settings) (p : Console) : Prop where
  shown : ∃ earlier illegal, p.printed = earlier ++ numbered (p.choices cfg) ++ barred illegal
  taken : ∀ line k choice, Text.number? (command line) = some k →
    (command line).length ≤ Decimal.maxDigits → 1 ≤ k → (p.choices cfg)[k - 1]? = some choice →
      ∃ g d, p.current = some g ∧ reply cfg line p = .ok true d ∧
        (Engine.choose cfg g choice.id p.engine).1.accepted = true ∧
        d.engine = (Engine.choose cfg g choice.id p.engine).2
  passed : ∀ line k, Text.number? (command line) = some k →
    (command line).length ≤ Decimal.maxDigits → k = 0 ∨ (p.choices cfg).length < k →
      ∃ d, reply cfg line p = .ok true d ∧ d.engine = p.engine
  unheard : ∀ line, Text.isNumeral (command line) = false →
    command line ∉ quitting ++ ["start", "abandon", "travel", "status", "history", "save"] →
      ∃ d, reply cfg line p = .ok true d ∧ d.engine = p.engine

/-- How a console is left: the story has ended, which is told last, or the lines are used up, or the
last one that was read stops it. -/
structure LeftAfter (read : List String) (d : Console) : Prop where
  reason : d.engine.session.ending.isSome = true ∨ d.input = [] ∨
    ∃ line ∈ read.getLast?, command line ∈ quitting
  told : ∀ ending failed, d.engine.session.ending = some (ending, failed) →
    d.printed.getLast? = some ("THE END: " ++ ending ++ if failed then " (failed)" else "")

/-- A console takes whatever is typed, unless it comes to a command that cannot be obeyed. -/
structure Survives (cfg : Settings) (c : Console) : Prop where
  ends : (∀ before line later p, c.input = before ++ line :: later → Prompts cfg c before p →
      p.failure? (command line) = none) →
    ∃ d read, run cfg c = .ok () d ∧ c.input = read ++ d.input ∧ d.LeftAfter read
  fails : ∀ before line later p why, c.input = before ++ line :: later → Prompts cfg c before p →
    p.failure? (command line) = some why → ∃ d, run cfg c = .error why d
  offers : ∀ before later p, c.input = before ++ later → Prompts cfg c before p → p.Offers cfg

variable {cfg : Settings} {c d p : Console}

theorem turn_eq (cfg : Settings) (line : String) :
    turn cfg (some line) = ask cfg >>= fun _ => reply cfg line := by
  unfold turn reply
  rfl

theorem takeTurns_cons (hgoing : c.engine.session.ending = none) (line : String)
    (rest : List String) : takeTurns cfg (line :: rest) c =
      (turn cfg (some line) >>= fun on => if on then takeTurns cfg rest else pure ()) c := by
  rw [takeTurns, run_get, hgoing]
  rfl

theorem takeTurns_over {ending : String × Bool} (hending : c.engine.session.ending = some ending)
    (lines : List String) : takeTurns cfg lines c = .ok () c := by
  cases lines with
  | nil =>
    rw [takeTurns, run_get, hending]
    rfl
  | cons line rest =>
    rw [takeTurns, run_get, hending]
    rfl

theorem turn_of_ask (hask : ask cfg c = .ok () p) (line : String) :
    turn cfg (some line) c = reply cfg line p := by
  rw [turn_eq]
  exact run_bind hask

theorem quiet_of_quitting {word : String} (h : word ∈ quitting) :
    ¬ Text.isNumeral word = true ∧ word ≠ "status" := by
  have hquiet : ∀ word ∈ quitting, ¬ Text.isNumeral word = true ∧ word ≠ "status" := by
    decide +kernel
  exact hquiet word h

theorem reply_of_obey {line : String} (hgoes : command line ∉ quitting)
    (hrun : obey cfg (command line) (argument line) { p with input := p.input.drop 1 } =
      .ok () d) : reply cfg line p = .ok true d := by
  unfold reply
  rw [run_modify, handle_eq, if_neg (mt List.contains_iff_mem.1 hgoes), run_bind hrun]
  rfl

section Lines

variable (haccepted : cfg.Accepted) (htitled : cfg.Titled)
include haccepted htitled

theorem reply_ends (h : p.Standing cfg) {line : String} (hsave : command line ≠ "save") :
    Ends (reply cfg line) p
      (fun on d => d.Ready ∧ d.input = p.input.drop 1 ∧ (on = false ↔ command line ∈ quitting) ∧
        p.failure? (command line) = none)
      fun why _ => p.failure? (command line) = some why := by
  unfold reply
  rw [ends_bind, ends_modify, handle_eq]
  generalize command line = word at hsave ⊢
  generalize argument line = arg
  have hstanding : ({ p with input := p.input.drop 1 } : Console).Standing cfg :=
    h.of_same rfl rfl
  by_cases hquit : word ∈ quitting
  · rw [if_pos (List.contains_iff_mem.2 hquit)]
    obtain ⟨hnum, hstatus⟩ := quiet_of_quitting hquit
    exact ⟨hstanding.toReady, rfl, by simp [hquit], failure?_of_quiet hnum hstatus⟩
  · rw [if_neg (mt List.contains_iff_mem.1 hquit), ends_bind]
    exact (obey_ends haccepted htitled hstanding hsave arg).mono
      (fun _ d ⟨hfollows, hno⟩ => ⟨hfollows.ready, hfollows.input, by simp [hquit], hno⟩)
      fun _ _ hwhy => hwhy

/-- A turn asks for a line and replies to it. -/
theorem turn_ends (h : c.Ready) {line : String} (hsave : command line ≠ "save") :
    Ends (turn cfg (some line)) c
      (fun on d => d.Ready ∧ d.input = c.input.drop 1 ∧ (on = false ↔ command line ∈ quitting) ∧
        ∀ p, ask cfg c = .ok () p → p.failure? (command line) = none)
      fun why _ => ∃ p, ask cfg c = .ok () p ∧ p.failure? (command line) = some why := by
  obtain ⟨p, hask, hasks⟩ := h.asks (haccepted.describes htitled)
  have hreply := reply_ends haccepted htitled hasks.toStanding hsave
  rw [ends_congr (turn_of_ask hask line)]
  refine hreply.mono (fun on d ⟨hready, hinput, hon, hno⟩ => ?_) fun why d hwhy => ⟨p, hask, hwhy⟩
  refine ⟨hready, by rw [hinput, hasks.input], hon, fun q hq => ?_⟩
  cases hask.symm.trans hq
  exact hno

/-- Between two prompts a console is ready. -/
theorem Prompts.asks {before : List String} (hprompts : Prompts cfg c before p) (h : c.Ready)
    (hsave : ∀ line ∈ before, command line ≠ "save") : ∃ d, Asks cfg d p := by
  induction hprompts with
  | first _ hask =>
    obtain ⟨q, hask', hasks⟩ := h.asks (haccepted.describes htitled)
    cases hask.symm.trans hask'
    exact ⟨_, hasks⟩
  | next _ hturn _ ih =>
    rw [List.forall_mem_cons] at hsave
    exact ih ((turn_ends haccepted htitled h hsave.1).of_ok hturn).1 hsave.2

/-- Where a command cannot be obeyed, the console breaks off for it. -/
theorem Prompts.fails {before : List String} {line : String} (hprompts : Prompts cfg c before p)
    (h : c.Ready) (hsave : ∀ l ∈ before ++ [line], command l ≠ "save") {why : Fault}
    (hwhy : p.failure? (command line) = some why) (later : List String) :
    ∃ d, takeTurns cfg (before ++ line :: later) c = .error why d := by
  induction hprompts with
  | @first c p hgoing hask =>
    have hends := (turn_ends haccepted htitled h (hsave line (by simp))).and (ends_run _ c)
    rw [List.nil_append, takeTurns_cons hgoing]
    cases hrun : turn cfg (some line) c with
    | ok on d =>
      have hno := (hends.of_ok hrun).1.2.2.2 p hask
      cases hno.symm.trans hwhy
    | error why' d =>
      obtain ⟨⟨q, hask', hwhy'⟩, _⟩ := hends.of_error hrun
      cases hask.symm.trans hask'
      cases hwhy.symm.trans hwhy'
      exact ⟨d, run_bind_error hrun⟩
  | next hgoing hturn _ ih =>
    rw [List.cons_append, List.forall_mem_cons] at hsave
    obtain ⟨d, hrun⟩ := ih ((turn_ends haccepted htitled h hsave.1).of_ok hturn).1 hsave.2 hwhy
    refine ⟨d, ?_⟩
    rw [List.cons_append, takeTurns_cons hgoing, run_bind hturn]
    exact hrun

/-- Unless it comes to a command that cannot be obeyed, a console goes on until it is left. -/
theorem takeTurns_ends (h : c.Ready) {lines : List String} (hinput : c.input = lines)
    (hsave : ∀ line ∈ lines, command line ≠ "save") : Ends (takeTurns cfg lines) c
      (fun _ d => ∃ read, lines = read ++ d.input ∧ (d.engine.session.ending.isSome = true ∨
        d.input = [] ∨ ∃ line ∈ read.getLast?, command line ∈ quitting))
      fun why _ => ∃ before line later p, lines = before ++ line :: later ∧
        Prompts cfg c before p ∧ p.failure? (command line) = some why := by
  induction lines generalizing c with
  | nil =>
    cases hending : c.engine.session.ending with
    | some ending =>
      exact ends_of_ok (takeTurns_over hending []) ⟨[], by simp [hinput], .inr (.inl hinput)⟩
    | none =>
      obtain ⟨p, hask, hasks⟩ := h.asks (haccepted.describes htitled)
      have hrun : takeTurns cfg [] c = .ok () p := by
        rw [takeTurns, run_get, hending]
        exact run_bind (run_bind hask)
      have hnone : p.input = [] := hasks.input.trans hinput
      exact ends_of_ok hrun ⟨[], by simp [hnone], .inr (.inl hnone)⟩
  | cons line rest ih =>
    cases hending : c.engine.session.ending with
    | some ending =>
      exact ends_of_ok (takeTurns_over hending _) ⟨[], by simp [hinput], .inl (by simp [hending])⟩
    | none =>
      rw [List.forall_mem_cons] at hsave
      rw [ends_congr (takeTurns_cons hending line rest), ends_bind]
      have hends := (turn_ends haccepted htitled h hsave.1).and (ends_run _ c)
      refine hends.mono (fun on d ⟨⟨hready, hleft, hon, _⟩, hturn⟩ => ?_)
        fun why _ ⟨⟨p, hask, hwhy⟩, _⟩ => ⟨[], line, rest, p, rfl, .first hending hask, hwhy⟩
      have hrest : d.input = rest := by rw [hleft, hinput, List.drop_one, List.tail_cons]
      cases on with
      | false => exact ⟨[line], by simp [hrest], .inr (.inr ⟨line, rfl, hon.1 rfl⟩)⟩
      | true =>
        refine (ih hready hrest hsave.2).mono (fun _ d' ⟨read, hread, hreason⟩ => ?_)
          fun why _ ⟨before, l, later, p, hlines, hprompts, hwhy⟩ => ?_
        · refine ⟨line :: read, by rw [hread, List.cons_append], hreason.imp_right ?_⟩
          refine Or.imp_right fun ⟨l, hl, hquit⟩ => ⟨l, ?_, hquit⟩
          rw [List.getLast?_cons, Option.mem_def.1 hl]
          rfl
        · exact ⟨line :: before, l, later, p, by rw [hlines, List.cons_append],
            .next hending hturn hprompts, hwhy⟩

end Lines

section Numbers

variable {word arg line : String} {k : Nat}

theorem obey_number_none (hnum : Text.isNumeral word = true) (arg : String)
    (hnone : c.current = none) :
    obey cfg word arg c = .ok () (c.said ["nothing to choose from"]) := by
  unfold obey handleNumber
  rw [if_pos hnum, run_get, hnone]
  rfl

theorem obey_number_some (hk : Text.number? word = some k)
    (hlength : word.length ≤ Decimal.maxDigits) (arg : String) {g : String}
    (hg : c.current = some g) : obey cfg word arg c = takeChoice cfg g k c := by
  unfold obey handleNumber
  rw [if_pos (Text.misreading?_of_number hk hlength).1, run_get, hg]
  dsimp only
  rw [Value.readNumeral_of_number hk hlength]
  rfl

theorem obey_unheard (hnum : Text.isNumeral word = false)
    (hword : word ∉ ["start", "abandon", "travel", "status", "history", "save"]) (arg : String)
    (c : Console) : obey cfg word arg c = .ok () (c.said [helpText]) := by
  simp only [List.mem_cons, List.not_mem_nil, or_false, not_or] at hword
  simp only [obey, hnum, hword, if_false, Bool.false_eq_true]
  rfl

/-- A number stands for the choice that is shown with it. -/
theorem reply_number (h : p.Standing cfg) (hk : Text.number? (command line) = some k)
    (hlength : (command line).length ≤ Decimal.maxDigits) : ∃ d, reply cfg line p = .ok true d ∧
      match chosen? (p.choices cfg) k with
      | none => d.engine = p.engine
      | some choice => ∃ g node, p.current = some g ∧
          p.engine.session.ShowsAny cfg g (some node) ∧ choice ∈ node.legal ∧
          d.engine = (Engine.choose cfg g choice.id p.engine).2 := by
  have hnum := (Text.misreading?_of_number hk hlength).1
  have hgoes : command line ∉ quitting := fun hquit => (quiet_of_quitting hquit).1 hnum
  cases hg : p.current with
  | none =>
    refine ⟨_, reply_of_obey hgoes (obey_number_none hnum _ hg), ?_⟩
    rw [choices_of_none hg, chosen?, List.getElem?_nil, ite_self]
    rfl
  | some g =>
    obtain ⟨node, hshows, hpresent⟩ := h.shows g hg
    have hobey : obey cfg (command line) (argument line) { p with input := p.input.drop 1 } = _ :=
      obey_number_some hk hlength (argument line) hg
    rw [takeChoice_eq (c := { p with input := p.input.drop 1 }) hpresent] at hobey
    rw [choices_eq hg hpresent]
    cases hchoice : chosen? node.legal k with
    | none =>
      rw [hchoice] at hobey
      exact ⟨_, reply_of_obey hgoes hobey, rfl⟩
    | some choice =>
      rw [hchoice] at hobey
      exact ⟨_, reply_of_obey hgoes hobey, g, node, rfl, hshows, mem_of_chosen? hchoice, rfl⟩

/-- What a console asks for is what it offers. -/
theorem Asks.offers (h : Asks cfg c p) (hcfg : cfg.Describes) : p.Offers cfg := by
  constructor
  case shown =>
    obtain ⟨heading, illegal, hprinted⟩ := h.printed
    exact ⟨c.printed ++ heading, illegal, by simp [hprinted]⟩
  case taken =>
    intro line k choice hk hlength hfirst hchoice
    obtain ⟨d, hrun, hd⟩ := reply_number h.toStanding hk hlength
    rw [chosen?_of_le hfirst, hchoice] at hd
    obtain ⟨g, node, hg, hshows, hlegal, hengine⟩ := hd
    exact ⟨g, d, hg, hrun, h.unhindered.chooses_shown hcfg hshows hlegal, hengine⟩
  case passed =>
    intro line k hk hlength hno
    obtain ⟨d, hrun, hd⟩ := reply_number h.toStanding hk hlength
    rw [chosen?_eq_none_iff.2 hno] at hd
    exact ⟨d, hrun, hd⟩
  case unheard =>
    intro line hnum hword
    rw [List.mem_append, not_or] at hword
    refine ⟨_, reply_of_obey hword.1 (obey_unheard hnum hword.2 _ _), rfl⟩

end Numbers

theorem showEnding_eq (c : Console) : showEnding c = .ok () (c.said
    (c.engine.session.ending.map fun (ending, failed) =>
      "THE END: " ++ ending ++ if failed then " (failed)" else "").toList) := by
  unfold showEnding
  rw [run_get]
  cases c.engine.session.ending <;> rfl

/-- A ready console survives whatever is typed, as long as nobody saves. -/
theorem Ready.survives (haccepted : cfg.Accepted) (htitled : cfg.Titled) (h : c.Ready)
    (hsave : ∀ line ∈ c.input, command line ≠ "save") : c.Survives cfg := by
  have hends := takeTurns_ends haccepted htitled h rfl hsave
  constructor
  case ends =>
    intro hno
    cases hrun : takeTurns cfg c.input c with
    | error why d =>
      obtain ⟨before, line, later, p, hinput, hprompts, hwhy⟩ := hends.of_error hrun
      cases (hno before line later p hinput hprompts).symm.trans hwhy
    | ok _ d =>
      obtain ⟨read, hread, hreason⟩ := hends.of_ok hrun
      refine ⟨_, read, (run_bind hrun).trans (showEnding_eq d), hread, hreason, ?_⟩
      intro ending failed hending
      rw [engine_said] at hending
      rw [printed_said, hending]
      exact List.getLast?_concat
  case fails =>
    intro before line later p why hinput hprompts hwhy
    rw [hinput] at hsave
    have hsave' : ∀ l ∈ before ++ [line], command l ≠ "save" := fun l hl =>
      hsave l (by simp at hl ⊢; tauto)
    obtain ⟨d, hrun⟩ := hprompts.fails haccepted htitled h hsave' hwhy later
    refine ⟨d, ?_⟩
    unfold run
    rw [run_get, hinput]
    exact run_bind_error hrun
  case offers =>
    intro before later p hinput hprompts
    rw [hinput] at hsave
    obtain ⟨d, hasks⟩ := hprompts.asks haccepted htitled h fun line hline =>
      hsave line (List.mem_append_left _ hline)
    exact hasks.offers (haccepted.describes htitled)

/-- A console breaks off at once for a first command that cannot be obeyed. -/
theorem Ready.breaks_off (haccepted : cfg.Accepted) (htitled : cfg.Titled) (h : c.Ready)
    (hgoing : c.engine.session.ending = none) {line : String} (hinput : c.input = [line])
    (hsave : command line ≠ "save") {why : Fault}
    (hwhy : ({ c with current := c.stage } : Console).failure? (command line) = some why) :
    ∃ d, run cfg c = .error why d := by
  obtain ⟨p, hask, hasks⟩ := h.asks (haccepted.describes htitled)
  have hsurvives := h.survives haccepted htitled (by simpa [hinput] using hsave)
  refine hsurvives.fails [] line [] p why hinput (.first hgoing hask) ?_
  unfold failure? at hwhy ⊢
  rw [hasks.engine, hasks.current]
  exact hwhy

end Console

/-- The console of an engine begins with its current quest. -/
theorem Engine.Unhindered.ready {e : Engine} (h : e.Unhindered) (disk : Option Disk)
    (saveFile : Except Fault (Option String)) (lines : List String) :
    (Console.start e disk saveFile lines).Ready := by
  refine ⟨h, fun g hg => ?_⟩
  obtain ⟨i, hi, _⟩ := Session.playing_of_currentGraph h.distinct hg
  exact Session.instance?_isSome.1 (Option.isSome_iff_exists.2 ⟨i, hi⟩)

end Questline
