import Questline.Proofs.Acceptance
import Questline.Proofs.Judging

/-! Words for requirements.  Settings that pass the check have titles and levels; if each of their
titles is worded too, they have words for every requirement. -/

namespace Questline

/-- Every title has a wording. -/
def Settings.Titled (cfg : Settings) : Prop := ∀ t ∈ cfg.titles, t.wording.isSome = true

/-- The titles that count for a reputation have a wording: the first one, and all whose threshold
is reached. -/
structure Settings.Tells (cfg : Settings) (value : Int) : Prop where
  first : ∀ t ∈ cfg.titles.head?, t.wording.isSome = true
  reached : ∀ t ∈ cfg.titles, t.threshold ≤ value → t.wording.isSome = true

theorem Settings.Titled.tells {cfg : Settings} (h : cfg.Titled) (value : Int) : cfg.Tells value :=
  ⟨fun t ht => h t (List.mem_of_mem_head? ht), fun t ht _ => h t ht⟩

namespace Scale

variable {cfg : Settings}

theorem wordingOf_eq_ok {t : Title} :
    (∃ wording, wordingOf t = .ok wording) ↔ t.wording.isSome = true := by
  unfold wordingOf
  cases t.wording with
  | none => simp
  | some wording => simp

theorem foldlM_wordingOf {value : Int} {titles : List Title} {title : Value} :
    (∃ last, titles.foldlM (fun title t => if t.threshold ≤ value then wordingOf t else pure title)
      title = .ok last) ↔
      ∀ t ∈ titles, t.threshold ≤ value → t.wording.isSome = true := by
  induction titles generalizing title with
  | nil => exact ⟨fun _ => nofun, fun _ => ⟨title, rfl⟩⟩
  | cons t rest ih =>
    rw [List.foldlM_cons, List.forall_mem_cons]
    split
    next hreached =>
      rw [← wordingOf_eq_ok]
      cases wordingOf t with
      | error why => simp [hreached, bind, Except.bind]
      | ok wording => simpa [hreached, bind, Except.bind] using ih
    next hno => simpa [hno, bind, Except.bind, pure, Except.pure] using ih

/-- A reputation has a title just if the titles that count for it are worded. -/
theorem reputationTitle_eq_ok (hsome : cfg.titles ≠ []) {value : Int} :
    (∃ title, reputationTitle cfg value = .ok title) ↔ cfg.Tells value := by
  unfold reputationTitle
  split
  next hnone => exact absurd hnone hsome
  next first rest hcons =>
    constructor
    · rintro ⟨title, h⟩
      obtain ⟨wording, hfirst, h⟩ := bind_eq_ok.1 h
      refine ⟨fun t ht => ?_, foldlM_wordingOf.1 ⟨title, h⟩⟩
      obtain rfl : first = t := by simpa [hcons] using ht
      exact wordingOf_eq_ok.1 ⟨wording, hfirst⟩
    · intro h
      obtain ⟨wording, hfirst⟩ := wordingOf_eq_ok.2 (h.first first (by simp [hcons]))
      rw [hfirst]
      exact foldlM_wordingOf.2 h.reached

theorem relationshipLevel_ok (hsome : cfg.levels ≠ []) (value : Int) :
    ∃ level, relationshipLevel cfg value = .ok level := by
  have hinserted (level : String × Int) (sorted : List (String × Int)) :
      insertLevel level sorted ≠ [] := by
    cases sorted with
    | nil => simp [insertLevel]
    | cons l rest =>
      rw [insertLevel]
      split <;> simp
  have hsorted : sortedLevels cfg ≠ [] := by
    unfold sortedLevels
    rw [← List.dropLast_concat_getLast hsome, List.foldl_append]
    exact hinserted _ _
  unfold relationshipLevel
  split
  next hnone => exact absurd hnone hsorted
  next => exact ⟨_, rfl⟩

end Scale

namespace Settings

/-- Accepted settings have words for a requirement just if the titles are worded that count for the
reputation that it asks for, if it asks for one. -/
theorem Accepted.describe_eq_ok {cfg : Settings} (h : cfg.Accepted) {r : Requirement}
    (hr : r.Formed) : (∃ text, r.describe cfg = .ok text) ↔
      (r.kind = .factionLevel → ∀ v ∈ r.value, cfg.Tells v.toInt) := by
  obtain ⟨htitles, hlevels⟩ := h.scaled
  have hvalue (hkind : r.kind.isNumeric = true) : ∃ v, r.value = some v :=
    Option.isSome_iff_exists.1 (hr.value.trans hkind)
  unfold Requirement.describe
  cases hkind : r.kind with
  | factionLevel =>
    obtain ⟨v, hv⟩ := hvalue (by rw [hkind]; rfl)
    have htitle := @Scale.reputationTitle_eq_ok cfg htitles v.toInt
    rw [hv]
    constructor
    · rintro ⟨text, htext⟩ - _ ⟨⟩
      obtain ⟨title, hok, _⟩ := map_eq_ok.1 htext
      exact htitle.1 ⟨title, hok⟩
    · intro htells
      obtain ⟨title, hok⟩ := htitle.2 (htells rfl v rfl)
      exact ⟨_, congrArg (Except.map _) hok⟩
  | relationship =>
    obtain ⟨v, hv⟩ := hvalue (by rw [hkind]; rfl)
    obtain ⟨level, hlevel⟩ := Scale.relationshipLevel_ok hlevels v.toInt
    rw [hv]
    exact ⟨fun _ => nofun, fun _ => ⟨_, congrArg (Except.map _) hlevel⟩⟩
  | _ => exact ⟨fun _ => nofun, fun _ => ⟨_, rfl⟩⟩

/-- Accepted settings whose titles are all worded have words for all requirements. -/
theorem Accepted.describes {cfg : Settings} (h : cfg.Accepted) (htitled : cfg.Titled) :
    cfg.Describes :=
  fun _ hr => (h.describe_eq_ok hr).2 fun _ v _ => htitled.tells v.toInt

theorem accepted_builtIn : builtIn.Accepted := by
  refine ⟨[], builtInTree, ?_, rfl⟩
  unfold load
  rw [show Table.merge builtInTree [] = (builtInTree, none) from rfl]
  dsimp only
  rw [check_builtIn]

theorem titled_builtIn : builtIn.Titled := by
  unfold Titled
  decide +kernel

end Settings

end Questline
