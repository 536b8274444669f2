import Questline.Proofs.Reading
import Questline.Settings.BuiltIn

/-! What is reported of content that is turned down.  Problems are gathered while graphs are read,
while their names are collected and while their references are checked; yet what is said of one
graph depends on nothing but that graph and the names that there are. -/

namespace Questline

namespace Problems

variable {all : Problems} {graph id : String} {found : List Problem}

/-- Every graph is mentioned once, and only with something to say of it. -/
structure Proper (all : Problems) : Prop where
  distinct : (Assoc.keys all).Nodup
  telling : ∀ p ∈ all, p.2 ≠ []

theorem Proper.add (h : all.Proper) : (all.add graph found).Proper := by
  unfold Problems.add
  split
  · exact h
  next hfound =>
    refine ⟨Assoc.nodup_keys_put _ (Assoc.exact graph) h.distinct, fun p hp => ?_⟩
    rcases Assoc.of_mem_put hp with hp | hp
    · exact h.telling p hp
    · rw [hp]
      exact List.append_ne_nil_of_right_ne_nil _ fun he => hfound (by rw [he]; rfl)

theorem Proper.foldl_add {α : Type} {f : String × α → List Problem} {l : Assoc String α}
    (h : all.Proper) :
    Proper (l.foldl (fun problems p => Problems.add problems p.1 (f p)) all) := by
  induction l generalizing all with
  | nil => exact h
  | cons p rest ih => exact ih h.add

/-- What is said of a graph, found by its name. -/
theorem Proper.get?_eq (h : all.Proper) :
    Assoc.get? all id =
      if Assoc.getD all id [] = [] then none else some (Assoc.getD all id []) := by
  unfold Assoc.getD
  cases hget : Assoc.get? all id with
  | none => rfl
  | some found =>
    have htelling := h.telling _ (Assoc.mem_of_get? (Assoc.exact id) hget)
    rw [Option.getD_some, if_neg htelling]

theorem Proper.mem_keys (h : all.Proper) : id ∈ Assoc.keys all ↔ Assoc.getD all id [] ≠ [] := by
  rw [← Assoc.get?_isSome_iff (Assoc.exact id), h.get?_eq]
  split <;> simp_all

theorem getD_add :
    Assoc.getD (all.add graph found) id [] =
      Assoc.getD all id [] ++ if id = graph then found else [] := by
  unfold add
  split
  next hfound => simp [List.isEmpty_iff.1 hfound]
  next =>
    unfold Assoc.getD
    rw [Assoc.get?_put _ (Assoc.exact id) (Assoc.exact graph)]
    by_cases hid : id = graph <;> simp [hid]

/-- Where each name comes once, what is added under it is all that is added to what was said of
its graph. -/
theorem getD_foldl_add {α : Type} {f : String × α → List Problem} {l : Assoc String α}
    (hl : (Assoc.keys l).Nodup) :
    Assoc.getD (l.foldl (fun problems p => Problems.add problems p.1 (f p)) all) id [] =
      Assoc.getD all id [] ++ (Assoc.get? l id).elim [] fun a => f (id, a) := by
  induction l generalizing all with
  | nil => simp
  | cons p rest ih =>
    obtain ⟨name, a⟩ := p
    rw [Assoc.keys_cons, List.nodup_cons] at hl
    rw [List.foldl_cons, ih hl.2, getD_add, List.append_assoc, Assoc.get?]
    congr 1
    by_cases hid : name = id
    · subst hid
      rw [(Assoc.get?_eq_none_iff (Assoc.exact name)).2 hl.1]
      simp
    · simp [hid, Ne.symm hid]

end Problems

namespace Content

variable {cfg : Settings} {content : Content} {existing names : List String} {id : String}

/-- What is reported of content: nothing where it is accepted. -/
inductive Reports (cfg : Settings) (content : Content) (existing : List String) : Problems → Prop
  | nothing {graphs : List Graph} : load cfg content existing = .ok graphs →
      Reports cfg content existing []
  | bad {problems : Problems} : load cfg content existing = .error (.bad problems) →
      Reports cfg content existing problems

/-- A graph has a fault of its own: it is no table, it cannot be read without problems, its name is
taken, or its references do not all lead somewhere. -/
inductive Faulty (cfg : Settings) (content : Content) (existing : List String) (id : String) : Prop
  | notTable {v : Value} : (id, v) ∈ content → (∀ fields, v ≠ .table fields) →
      Faulty cfg content existing id
  | misread {v : Value} {g : Graph} {found : List Problem} : (id, v) ∈ content →
      Graph.read cfg id v = .ok (g, found) → found ≠ [] → Faulty cfg content existing id
  | clash {v : Value} : (id, v) ∈ content → id ∈ existing → Faulty cfg content existing id
  | dangling {v : Value} {g : Graph} : (id, v) ∈ content → Graph.read cfg id v = .ok (g, []) →
      ¬ g.Coherent (existing ++ Assoc.keys content) → Faulty cfg content existing id

/-- What is wrong with a graph as it is authored. -/
def misreadings (cfg : Settings) (id : String) (v : Value) : List Problem :=
  match v with
  | .table _ => (Graph.read cfg id v).toOption.elim [] Prod.snd
  | _ => [.notTable v]

/-- The graph that is read, if nothing is wrong with it. -/
def wellRead? (cfg : Settings) (id : String) (v : Value) : Option Graph :=
  (Graph.read cfg id v).toOption.bind fun r => if r.2.isEmpty then some r.1 else none

/-- What is wrong with a graph that is read well, given the names that are taken and the names in
the content. -/
def misfits (existing names : List String) (id : String) (g : Graph) : List Problem :=
  (if existing.contains id then [.duplicateGraph] else []) ++ g.validate (existing ++ names)

/-- Everything wrong with one graph. -/
def ownProblems (cfg : Settings) (existing names : List String) (id : String) (v : Value) :
    List Problem :=
  misreadings cfg id v ++ (wellRead? cfg id v).elim [] (misfits existing names id)

/-- Only the sets of names matter. -/
theorem ownProblems_congr {existing' names' : List String}
    (hexisting : ∀ name, name ∈ existing ↔ name ∈ existing')
    (hnames : ∀ name, name ∈ names ↔ name ∈ names') :
    ownProblems cfg existing names = ownProblems cfg existing' names' := by
  have hcontains : existing.contains = existing'.contains := by
    funext name
    rw [Bool.eq_iff_iff, List.contains_iff_mem, List.contains_iff_mem]
    exact hexisting name
  have hvalid (g : Graph) : g.validate (existing ++ names) = g.validate (existing' ++ names') :=
    g.validate_congr fun name => by rw [List.mem_append, List.mem_append, hexisting, hnames]
  have hmisfits : misfits existing names = misfits existing' names' := by
    funext id g
    unfold misfits
    rw [hcontains, hvalid]
  unfold ownProblems
  rw [hmisfits]

/-- The graphs that are read well, by name. -/
def wellRead (cfg : Settings) : Content → Assoc String Graph
  | [] => []
  | (id, v) :: rest => (wellRead? cfg id v).elim [] (fun g => [(id, g)]) ++ wellRead cfg rest

theorem keys_wellRead_sublist :
    (Assoc.keys (wellRead cfg content)).Sublist (Assoc.keys content) := by
  induction content with
  | nil => exact .slnil
  | cons p rest ih =>
    rw [wellRead]
    cases wellRead? cfg p.1 p.2 with
    | none => exact ih.cons _
    | some g => exact ih.cons_cons _

theorem get?_wellRead (h : (Assoc.keys content).Nodup) :
    Assoc.get? (wellRead cfg content) id = (Assoc.get? content id).bind (wellRead? cfg id) := by
  induction content with
  | nil => rfl
  | cons p rest ih =>
    obtain ⟨name, v⟩ := p
    rw [Assoc.keys_cons, List.nodup_cons] at h
    have hrest := ih h.2
    rw [wellRead]
    by_cases hid : name = id
    · subst hid
      rw [(Assoc.get?_eq_none_iff (Assoc.exact name)).2 h.1, Option.bind_none] at hrest
      cases hread : wellRead? cfg name v <;> simp [hrest, hread, Assoc.get?]
    · cases wellRead? cfg name v <;> simp [hrest, hid, Assoc.get?]

/-- Reading has kept the graphs that are read well, and has noted what is wrong with the others. -/
structure ReadOff (cfg : Settings) (content : Content) (graphs : List Graph)
    (problems : Problems) : Prop where
  kept : graphs.map (fun g => (g.id, g)) = wellRead cfg content
  proper : problems.Proper
  told : ∀ id, Assoc.getD problems id [] = (Assoc.get? content id).elim [] (misreadings cfg id)
  readable : ∀ id fields, (id, .table fields) ∈ content →
    ∃ r, Graph.read cfg id (.table fields) = .ok r

namespace ReadOff

variable {v : Value} {graphs : List Graph} {problems : Problems}

theorem well (h : ReadOff cfg content graphs problems) (hid : id ∉ Assoc.keys content) {g : Graph}
    (hread : Graph.read cfg id v = .ok (g, [])) :
    ReadOff cfg ((id, v) :: content) (g :: graphs) problems := by
  obtain ⟨fields, rfl, hg⟩ := Graph.read_eq_ok.1 hread
  refine ⟨?_, h.proper, fun name => ?_, fun name fields' hmem => ?_⟩
  · rw [List.map_cons, h.kept, hg.id, wellRead, wellRead?, hread]
    rfl
  · rw [h.told, Assoc.get?]
    by_cases hname : id = name
    · subst hname
      rw [(Assoc.get?_eq_none_iff (Assoc.exact id)).2 hid, if_pos (beq_self_eq_true id)]
      simp [misreadings, hread, Except.toOption]
    · rw [if_neg (by simpa using hname)]
  · rcases List.mem_cons.1 hmem with he | hmem
    · cases he
      exact ⟨_, hread⟩
    · exact h.readable name fields' hmem

theorem noted (h : ReadOff cfg content graphs problems) (hid : id ∉ Assoc.keys content)
    {found : List Problem} (hfound : misreadings cfg id v = found) (hsome : found ≠ [])
    (hnone : wellRead? cfg id v = none)
    (hread : ∀ fields, v = .table fields → ∃ r, Graph.read cfg id v = .ok r) :
    ReadOff cfg ((id, v) :: content) graphs ((id, found) :: problems) := by
  have hnew : id ∉ Assoc.keys problems := by
    rw [h.proper.mem_keys, h.told, (Assoc.get?_eq_none_iff (Assoc.exact id)).2 hid]
    exact fun hne => hne rfl
  refine ⟨?_, ⟨List.nodup_cons.2 ⟨hnew, h.proper.distinct⟩,
    List.forall_mem_cons.2 ⟨hsome, h.proper.telling⟩⟩, fun name => ?_, fun name fields hmem => ?_⟩
  · rw [h.kept, wellRead, hnone]
    rfl
  · have htold := h.told name
    unfold Assoc.getD at htold ⊢
    rw [Assoc.get?, Assoc.get?]
    by_cases hname : id = name
    · subst hname
      simp [hfound]
    · simpa [hname] using htold
  · rcases List.mem_cons.1 hmem with he | hmem
    · cases he
      exact hread fields rfl
    · exact h.readable name fields hmem

end ReadOff

theorem of_readGraphs {graphs : List Graph} {problems : Problems}
    (hread : readGraphs cfg content = .ok (graphs, problems)) (h : (Assoc.keys content).Nodup) :
    ReadOff cfg content graphs problems := by
  induction content generalizing graphs problems with
  | nil =>
    cases hread
    exact ⟨rfl, ⟨.nil, List.forall_mem_nil _⟩, fun _ => rfl,
      fun _ _ hmem => absurd hmem List.not_mem_nil⟩
  | cons p rest ih =>
    obtain ⟨name, v⟩ := p
    rw [Assoc.keys_cons, List.nodup_cons] at h
    unfold readGraphs at hread
    cases v with
    | table fields =>
      obtain ⟨⟨g, found⟩, hg, hread⟩ := bind_eq_ok.1 hread
      obtain ⟨⟨others, problems'⟩, hothers, hread⟩ := bind_eq_ok.1 hread
      dsimp only at hread
      split at hread
      next hfound =>
        cases hread
        rw [List.isEmpty_iff.1 hfound] at hg
        exact (ih hothers h.2).well h.1 hg
      next hfound =>
        cases hread
        rw [List.isEmpty_iff] at hfound
        refine (ih hothers h.2).noted h.1 ?_ hfound ?_ fun _ _ => ⟨_, hg⟩
        · simp [misreadings, hg, Except.toOption]
        · simp [wellRead?, hg, Except.toOption, hfound]
    | atom _ | list _ =>
      obtain ⟨⟨others, problems'⟩, hothers, hread⟩ := bind_eq_ok.1 hread
      cases hread
      exact (ih hothers h.2).noted h.1 rfl (List.cons_ne_nil _ _) rfl fun _ => Value.noConfusion

variable {problems : Problems}

/-- A report comes from checking the graphs that have been read. -/
theorem Reports.checked (h : Reports cfg content existing problems) :
    ∃ graphs noted accepted, readGraphs cfg content = .ok (graphs, noted) ∧
      Graph.checkAll graphs existing (content.map Prod.fst) noted = (accepted, problems) := by
  cases h with
  | nothing h =>
    unfold load at h
    split at h
    next => cases h
    next graphs noted hread =>
      split at h
      next accepted hcheck => exact ⟨graphs, noted, accepted, hread, hcheck⟩
      next => cases h
  | bad h =>
    unfold load at h
    split at h
    next => cases h
    next graphs noted hread =>
      split at h
      next => cases h
      next accepted _ _ hcheck =>
        cases h
        exact ⟨graphs, noted, accepted, hread, hcheck⟩

/-- What is reported of each graph is what is wrong with that graph. -/
theorem Reports.told (h : Reports cfg content existing problems)
    (hdistinct : (Assoc.keys content).Nodup) :
    problems.Proper ∧
      (∀ id, Assoc.getD problems id [] =
        (Assoc.get? content id).elim [] (ownProblems cfg existing (Assoc.keys content) id)) ∧
      ∀ id fields, (id, .table fields) ∈ content →
        ∃ r, Graph.read cfg id (.table fields) = .ok r := by
  obtain ⟨graphs, noted, accepted, hread, hcheck⟩ := h.checked
  obtain ⟨hkept, hproper, htold, hreadable⟩ := of_readGraphs hread hdistinct
  have hwell : (Assoc.keys (wellRead cfg content)).Nodup := hdistinct.sublist keys_wellRead_sublist
  have hnames : graphs.map (·.id) = Assoc.keys (wellRead cfg content) := by
    rw [← hkept, Assoc.keys, List.map_map]
    rfl
  unfold Graph.checkAll at hcheck
  rw [Graph.collect_eq (by simpa [hnames] using hwell), hkept] at hcheck
  simp only [List.nil_append, Prod.mk.injEq] at hcheck
  obtain ⟨_, rfl⟩ := hcheck
  refine ⟨hproper.foldl_add.foldl_add, fun id => ?_, hreadable⟩
  -- a name in the content is known, whether its graph has been read well or not
  have hknown (g : Graph) :
      g.validate (existing ++ Assoc.keys (wellRead cfg content) ++ content.map Prod.fst) =
        g.validate (existing ++ Assoc.keys content) := by
    refine g.validate_congr fun name => ?_
    have hsub : name ∈ Assoc.keys (wellRead cfg content) → name ∈ Assoc.keys content :=
      fun hname => keys_wellRead_sublist.subset hname
    change name ∈ existing ++ Assoc.keys (wellRead cfg content) ++ Assoc.keys content ↔ _
    simp only [List.mem_append]
    tauto
  have hcollected : Assoc.getD ((wellRead cfg content).foldl (fun problems p =>
      Problems.add problems p.1 (if existing.contains p.1 then [.duplicateGraph] else [])) noted)
        id [] = _ := Problems.getD_foldl_add hwell
  have hvalidated (all : Problems) : Assoc.getD ((wellRead cfg content).foldl (fun problems p =>
      Problems.add problems p.1 (p.2.validate
        (existing ++ Assoc.keys (wellRead cfg content) ++ content.map Prod.fst))) all) id [] = _ :=
    Problems.getD_foldl_add hwell
  refine (hvalidated _).trans ?_
  rw [hcollected, htold, get?_wellRead hdistinct]
  cases Assoc.get? content id with
  | none => rfl
  | some v =>
    rw [Option.bind_some, Option.elim_some, Option.elim_some, ownProblems]
    cases wellRead? cfg id v with
    | none => simp
    | some g =>
      dsimp only [Option.elim_some, misfits]
      rw [List.append_assoc, ← hknown]

theorem ownProblems_of_read {fields : Table} {g : Graph} {found : List Problem}
    (h : Graph.read cfg id (.table fields) = .ok (g, found)) :
    ownProblems cfg existing names id (.table fields) =
      found ++ if found = [] then misfits existing names id g else [] := by
  simp only [ownProblems, misreadings, wellRead?, h, Except.toOption, Option.elim_some,
    Option.bind_some, List.isEmpty_iff]
  split <;> simp

theorem misfits_eq_nil {g : Graph} :
    misfits existing names id g = [] ↔ id ∉ existing ∧ g.Coherent (existing ++ names) := by
  unfold misfits
  rw [List.append_eq_nil_iff, Graph.validate_eq_nil]
  simp

/-- Something is reported of just the graphs that have a fault of their own. -/
theorem Reports.mem_keys (h : Reports cfg content existing problems)
    (hdistinct : (Assoc.keys content).Nodup) :
    id ∈ Assoc.keys problems ↔ Faulty cfg content existing id := by
  obtain ⟨hproper, htold, hreadable⟩ := h.told hdistinct
  have hget {v : Value} (hv : (id, v) ∈ content) : Assoc.get? content id = some v :=
    Assoc.get?_of_mem (Assoc.exact id) hdistinct hv
  rw [hproper.mem_keys, htold]
  constructor
  · intro hne
    cases hlookup : Assoc.get? content id with
    | none =>
      rw [hlookup] at hne
      exact absurd rfl hne
    | some v =>
      rw [hlookup, Option.elim_some] at hne
      have hmem := Assoc.mem_of_get? (Assoc.exact id) hlookup
      cases v with
      | table fields =>
        obtain ⟨⟨g, found⟩, hread⟩ := hreadable id fields hmem
        rw [ownProblems_of_read hread] at hne
        by_cases hfound : found = []
        · subst hfound
          rw [if_pos rfl, List.nil_append, ne_eq, misfits_eq_nil, not_and_or, not_not] at hne
          rcases hne with htaken | hdangling
          · exact .clash hmem htaken
          · exact .dangling hmem hread hdangling
        · exact .misread hmem hread hfound
      | atom a => exact .notTable hmem nofun
      | list items => exact .notTable hmem nofun
  · intro hfaulty
    -- a graph that can be read is blamed for what is found while reading, or else for misfits
    have hblamed {v : Value} (hv : (id, v) ∈ content)
        (hread : ∀ fields, v = .table fields → ∀ g, Graph.read cfg id v = .ok (g, []) →
          ¬ (id ∉ existing ∧ g.Coherent (existing ++ Assoc.keys content))) :
        ownProblems cfg existing (Assoc.keys content) id v ≠ [] := by
      cases v with
      | table fields =>
        obtain ⟨⟨g, found⟩, hg⟩ := hreadable id fields hv
        rw [ownProblems_of_read hg]
        by_cases hfound : found = []
        · subst hfound
          rw [if_pos rfl, List.nil_append, ne_eq, misfits_eq_nil]
          exact hread fields rfl g hg
        · rw [if_neg hfound, List.append_nil]
          exact hfound
      | atom a => exact List.cons_ne_nil _ _
      | list items => exact List.cons_ne_nil _ _
    cases hfaulty with
    | notTable hv hno =>
      rw [hget hv]
      exact hblamed hv fun fields he => absurd he (hno fields)
    | misread hv hread hsome =>
      rw [hget hv]
      refine hblamed hv fun fields he g' hread' => ?_
      cases hread.symm.trans hread'
      exact absurd rfl hsome
    | clash hv htaken =>
      rw [hget hv]
      exact hblamed hv fun _ _ _ _ h => h.1 htaken
    | dangling hv hread hno =>
      rw [hget hv]
      refine hblamed hv fun fields he g' hread' h => hno ?_
      cases hread.symm.trans hread'
      exact h.2

end Content

/-- Just the graphs with a fault of their own are reported.  What is reported of a graph depends on
that graph, on the names that are taken and on the names in the content, and on nothing else. -/
theorem faults_reported_alone {cfg : Settings} {content content' : Content}
    {existing existing' : List String} {problems problems' : Problems}
    (hdistinct : (Assoc.keys content).Nodup) (hdistinct' : (Assoc.keys content').Nodup)
    (h : content.Reports cfg existing problems) (h' : content'.Reports cfg existing' problems') :
    (Assoc.keys problems).Nodup ∧
    (∀ id, id ∈ Assoc.keys problems ↔ content.Faulty cfg existing id) ∧
    ((∀ name, name ∈ Assoc.keys content ↔ name ∈ Assoc.keys content') →
      (∀ name, name ∈ existing ↔ name ∈ existing') →
        ∀ id v, (id, v) ∈ content → (id, v) ∈ content' →
          Assoc.get? problems id = Assoc.get? problems' id) := by
  obtain ⟨hproper, htold, _⟩ := h.told hdistinct
  obtain ⟨hproper', htold', _⟩ := h'.told hdistinct'
  refine ⟨hproper.distinct, fun id => h.mem_keys hdistinct, fun hnames hexisting id v hv hv' => ?_⟩
  rw [hproper.get?_eq, hproper'.get?_eq, htold, htold',
    Assoc.get?_of_mem (Assoc.exact id) hdistinct hv,
    Assoc.get?_of_mem (Assoc.exact id) hdistinct' hv',
    Content.ownProblems_congr hexisting hnames]

/-- A ghost is reported alike beside a sound patrol and beside a broken one. -/
theorem faults_reported_alone_ghost :
    ∃ problems problems' : Problems,
      Content.Reports .builtIn (("ghost", .int 5) :: Content.patrol) [] problems ∧
      Content.Reports .builtIn [("patrol", .null), ("ghost", .int 5)] [] problems' ∧
      Assoc.keys problems = ["ghost"] ∧ Assoc.keys problems' = ["patrol", "ghost"] ∧
      Content.Faulty .builtIn [("patrol", .null), ("ghost", .int 5)] [] "patrol" ∧
      Assoc.get? problems' "ghost" = Assoc.get? problems "ghost" := by
  have hreports (content : Content) (names : List String)
      (hload : (match Content.load .builtIn content [] with
        | .error (.bad problems) => Assoc.keys problems == names
        | _ => false) = true) :
      ∃ problems, Content.Reports .builtIn content [] problems ∧ Assoc.keys problems = names := by
    split at hload
    next problems hbad => exact ⟨problems, .bad hbad, by simpa using hload⟩
    next => cases hload
  obtain ⟨problems, h, hkeys⟩ :=
    hreports (("ghost", .int 5) :: Content.patrol) ["ghost"] (by decide +kernel)
  obtain ⟨problems', h', hkeys'⟩ :=
    hreports [("patrol", .null), ("ghost", .int 5)] ["patrol", "ghost"] (by decide +kernel)
  obtain ⟨_, hfaulty, halone⟩ := faults_reported_alone (by decide) (by decide) h' h
  refine ⟨problems, problems', h, h', hkeys, hkeys', (hfaulty "patrol").1 (by rw [hkeys']; decide),
    halone (fun name => ?_) (fun _ => Iff.rfl) "ghost" (.int 5) (by simp) (by simp)⟩
  simp [Assoc.keys, Content.patrol, or_comm]

end Questline
