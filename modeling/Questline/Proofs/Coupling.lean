import Mathlib.Algebra.Order.BigOperators.Group.List
import Mathlib.Data.Rat.Floor
import Questline.Proofs.Scores

/-! A change of reputation and what the coupled factions feel of it.  Every coupling moves the other
faction once, and every move is cut to the bounds by itself.  Since the moves of one change all go
the same way, cutting the sum of them once comes to the same, so their order does not count. -/

namespace Questline

/-- A fraction rounded to the next integer on the side of zero. -/
def towardsZero (q : ℚ) : ℤ := if 0 ≤ q then ⌊q⌋ else ⌈q⌉

theorem tdiv_eq_towardsZero (n : ℤ) {d : ℤ} (hd : 0 < d) :
    n.tdiv d = towardsZero ((n : ℚ) / d) := by
  have hd' : (0 : ℚ) < d := by exact_mod_cast hd
  unfold towardsZero
  split
  next h =>
    have hn : 0 ≤ n := by
      rw [le_div_iff₀ hd', zero_mul] at h
      exact_mod_cast h
    rw [Int.tdiv_eq_ediv_of_nonneg hn]
    lift d to ℕ using hd.le
    exact_mod_cast (Rat.floor_intCast_div_natCast n d).symm
  next h =>
    have hn : 0 ≤ -n := by
      rw [le_div_iff₀ hd', zero_mul] at h
      have : n < 0 := by exact_mod_cast not_le.1 h
      omega
    lift d to ℕ using hd.le
    have hceil := Rat.ceil_intCast_div_natCast n d
    rw [← Int.tdiv_eq_ediv_of_nonneg hn, Int.neg_tdiv, neg_neg] at hceil
    exact_mod_cast hceil.symm

namespace Coupling

variable (c : Coupling)

/-- The coupling is one of two factions, whichever stands first. -/
def Joins (f g : String) : Prop := c.a = f ∧ c.b = g ∨ c.a = g ∧ c.b = f

instance (f g : String) : Decidable (c.Joins f g) := inferInstanceAs (Decidable (_ ∨ _))

/-- The same coupling with its factions the other way round. -/
def swap : Coupling := ⟨c.b, c.a, c.divisor⟩

theorem joins_swap (f g : String) : c.swap.Joins f g ↔ c.Joins f g := by
  unfold Joins swap
  tauto

variable {c} in
theorem Sound.swap (h : c.Sound) : c.swap.Sound :=
  ⟨h.second, h.first, h.distinct.symm, h.divides⟩

variable {c} in
theorem Sound.of_joins (h : c.Sound) {f g : String} (hjoins : c.Joins f g) :
    Faction.isWord g = true := by
  rcases hjoins with ⟨_, rfl⟩ | ⟨rfl, _⟩
  exacts [h.second, h.first]

/-- Couplings in another order, some of them with their factions the other way round. -/
def Rearranged (cs ds : List Coupling) : Prop :=
  ∃ es, cs.Perm es ∧ List.Forall₂ (fun c d => d = c ∨ d = c.swap) es ds

namespace Rearranged

variable {cs ds : List Coupling} (h : Rearranged cs ds)
include h

theorem sound (hcs : ∀ c ∈ cs, c.Sound) : ∀ d ∈ ds, d.Sound := by
  obtain ⟨es, hperm, hes⟩ := h
  have hsound : ∀ e ∈ es, e.Sound := fun e he => hcs e (hperm.mem_iff.2 he)
  clear hperm
  induction hes with
  | nil => exact nofun
  | cons hfirst _ ih =>
    rw [List.forall_mem_cons] at hsound ⊢
    refine ⟨?_, ih hsound.2⟩
    rcases hfirst with rfl | rfl
    · exact hsound.1
    · exact hsound.1.swap

theorem divisors (f g : String) :
    ((cs.filter (·.Joins f g)).map Coupling.divisor).Perm
      ((ds.filter (·.Joins f g)).map Coupling.divisor) := by
  obtain ⟨es, hperm, hes⟩ := h
  refine ((hperm.filter _).map _).trans (.of_eq ?_)
  clear hperm
  induction hes with
  | nil => rfl
  | @cons c d es ds hfirst _ ih =>
    have hjoins : d.Joins f g ↔ c.Joins f g := by
      rcases hfirst with rfl | rfl
      · rfl
      · exact joins_swap c f g
    have hdivisor : d.divisor = c.divisor := by rcases hfirst with rfl | rfl <;> rfl
    by_cases hc : c.Joins f g <;> simp [hjoins, hc, hdivisor, ih]

end Rearranged

end Coupling

namespace Bounds

variable {b : Bounds}

theorem clip_of_holds {n : Int} (h : b.Holds n) : b.clip n = n := by
  unfold Holds at h
  unfold clip
  rw [if_neg (by omega), if_neg (by omega)]

/-- Two moves that go the same way may be cut together. -/
theorem clip_clip_add {n x y : Int} (h : b.Holds n) (hsame : 0 ≤ x ∧ 0 ≤ y ∨ x ≤ 0 ∧ y ≤ 0) :
    b.clip (b.clip (n + x) + y) = b.clip (n + x + y) := by
  unfold Holds at h
  unfold clip
  split_ifs <;> omega

/-- What becomes of a score that amounts are added to, cut once.  Amounts of zero do not enter a
score that there has not been. -/
def moved (b : Bounds) (score : Option Int) (amounts : List Int) : Option Int :=
  if ∀ n ∈ amounts, n = 0 then score else some (b.clip (score.getD 0 + amounts.sum))

@[simp] theorem moved_nil (score : Option Int) : b.moved score [] = score := if_pos nofun

theorem holds_moved (hb : b.min < b.max) {score : Option Int} (h : b.Holds (score.getD 0))
    (amounts : List Int) : b.Holds ((b.moved score amounts).getD 0) := by
  unfold moved
  split
  · exact h
  · exact holds_clip hb _

/-- Amounts that go the same way. -/
def Aligned (amounts : List Int) : Prop := (∀ n ∈ amounts, 0 ≤ n) ∨ ∀ n ∈ amounts, n ≤ 0

theorem Aligned.sums {as bs : List Int} (h : Aligned (as ++ bs)) :
    0 ≤ as.sum ∧ 0 ≤ bs.sum ∨ as.sum ≤ 0 ∧ bs.sum ≤ 0 := by
  have hneg {l : List Int} (hl : ∀ n ∈ l, n ≤ 0) : l.sum ≤ 0 := by
    simpa using List.sum_le_card_nsmul l 0 hl
  unfold Aligned at h
  simp only [List.forall_mem_append] at h
  exact h.imp (fun h => ⟨List.sum_nonneg h.1, List.sum_nonneg h.2⟩) fun h => ⟨hneg h.1, hneg h.2⟩

/-- Amounts that go the same way can be added one after the other. -/
theorem moved_append {score : Option Int} (h : b.Holds (score.getD 0)) {as bs : List Int}
    (hsame : Aligned (as ++ bs)) :
    b.moved (b.moved score as) bs = b.moved score (as ++ bs) := by
  simp only [moved, List.forall_mem_append, List.sum_append]
  by_cases ha : ∀ n ∈ as, n = 0
  · rw [if_pos ha, List.sum_eq_zero ha, zero_add]
    simp only [and_iff_right ha]
  · have hboth : ¬ ((∀ n ∈ as, n = 0) ∧ ∀ n ∈ bs, n = 0) := fun hboth => ha hboth.1
    rw [if_neg ha, if_neg hboth]
    split
    next hb => rw [List.sum_eq_zero hb, add_zero]
    next => rw [Option.getD_some, clip_clip_add h hsame.sums, add_assoc]

theorem moved_perm {as bs : List Int} (h : as.Perm bs) (score : Option Int) :
    b.moved score as = b.moved score bs := by
  simp [moved, h.sum_eq, h.mem_iff]

theorem getD_moved {score : Option Int} (h : b.Holds (score.getD 0)) (amounts : List Int) :
    (b.moved score amounts).getD 0 = b.clip (score.getD 0 + amounts.sum) := by
  unfold moved
  split
  next hzero => rw [List.sum_eq_zero hzero, add_zero, clip_of_holds h]
  next => rfl

end Bounds

namespace Ledger

variable {cfg : Settings} {l : Ledger}

theorem get?_shiftReputation (cfg : Settings) (l : Ledger) (faction name : String) (amount : Int) :
    Assoc.get? (l.shiftReputation cfg faction amount).reputation name =
      if name = faction then some (cfg.reputation.clip (l.reputationOf faction + amount))
      else Assoc.get? l.reputation name :=
  Assoc.get?_put _ (Assoc.exact name) (Assoc.exact faction)

theorem aligned_induced (n : Int) {divisors : List Int} (h : ∀ d ∈ divisors, 0 < d) :
    Bounds.Aligned (divisors.map (induced n)) := by
  unfold Bounds.Aligned
  simp only [List.forall_mem_map]
  rcases le_total n 0 with hn | hn
  · exact .inl fun d hd => Int.tdiv_nonneg (by omega) (h d hd).le
  · refine .inr fun d hd => ?_
    have := Int.tdiv_nonneg hn (h d hd).le
    rw [induced, Int.neg_tdiv]
    omega

/-- Moves a coupled faction, unless too little is left for it. -/
def passOn (cfg : Settings) (n : Int) (l : Ledger) (c : String × Int) : Ledger :=
  if induced n c.2 = 0 then l else l.shiftReputation cfg c.1 (induced n c.2)

theorem changeReputation_passOn (l : Ledger) (faction : String) (n : Int) :
    l.changeReputation cfg faction n =
      (cfg.coupledWith faction).foldl (passOn cfg n) (l.shiftReputation cfg faction n) := rfl

/-- The divisors under which a name stands. -/
def divisorsOf (name : String) (coupled : List (String × Int)) : List Int :=
  (coupled.filter (·.1 = name)).map Prod.snd

theorem divisorsOf_cons (name : String) (c : String × Int) (rest : List (String × Int)) :
    divisorsOf name (c :: rest) = (if c.1 = name then [c.2] else []) ++ divisorsOf name rest := by
  by_cases h : c.1 = name <;> simp [divisorsOf, h]

theorem get?_passOn (n : Int) (l : Ledger) (c : String × Int) (name : String) :
    Assoc.get? (l.passOn cfg n c).reputation name = cfg.reputation.moved
      (Assoc.get? l.reputation name) ((if c.1 = name then [c.2] else []).map (induced n)) := by
  unfold passOn
  by_cases hzero : induced n c.2 = 0
  · by_cases hname : c.1 = name <;> simp [hzero, hname, Bounds.moved]
  · by_cases hname : c.1 = name
    · simp [hzero, hname, Bounds.moved, get?_shiftReputation, reputationOf, Assoc.getD]
    · simp [hzero, hname, get?_shiftReputation, Ne.symm hname]

/-- What a name has after an amount has been passed on to all coupled factions. -/
theorem get?_foldl_passOn (hcfg : cfg.reputation.min < cfg.reputation.max) (n : Int)
    {coupled : List (String × Int)} (hdivides : ∀ c ∈ coupled, 0 < c.2) {name : String}
    (h : cfg.reputation.Holds (l.reputationOf name)) :
    Assoc.get? (coupled.foldl (passOn cfg n) l).reputation name = cfg.reputation.moved
      (Assoc.get? l.reputation name) ((divisorsOf name coupled).map (induced n)) := by
  induction coupled generalizing l with
  | nil => simp [divisorsOf]
  | cons c rest ih =>
    have haligned : Bounds.Aligned ((divisorsOf name (c :: rest)).map (induced n)) := by
      refine aligned_induced n fun d hd => ?_
      obtain ⟨p, hp, rfl⟩ := List.mem_map.1 hd
      exact hdivides p (List.mem_of_mem_filter hp)
    rw [divisorsOf_cons, List.map_append] at haligned ⊢
    rw [List.foldl_cons, ih (List.forall_mem_cons.1 hdivides).2, get?_passOn,
      Bounds.moved_append h haligned]
    rw [reputationOf, Assoc.getD, get?_passOn]
    exact Bounds.holds_moved hcfg h _

theorem get?_foldl_passOn_of_ne {n : Int} {coupled : List (String × Int)} {name : String}
    (h : ∀ c ∈ coupled, c.1 ≠ name) :
    Assoc.get? (coupled.foldl (passOn cfg n) l).reputation name = Assoc.get? l.reputation name := by
  induction coupled generalizing l with
  | nil => rfl
  | cons c rest ih =>
    rw [List.forall_mem_cons] at h
    rw [List.foldl_cons, ih h.2, get?_passOn, if_neg h.1, List.map_nil, Bounds.moved_nil]

end Ledger

namespace Settings

variable {cfg : Settings} {f g : String}

theorem mem_coupledWith {p : String × Int} (h : p ∈ cfg.coupledWith f) :
    ∃ c ∈ cfg.couplings, p.2 = c.divisor ∧ (c.a = f ∧ p.1 = c.b ∨ c.b = f ∧ p.1 = c.a) := by
  obtain ⟨c, hc, hp⟩ := List.mem_flatMap.1 h
  refine ⟨c, hc, ?_⟩
  rcases List.mem_append.1 hp with hp | hp <;> split at hp <;> simp_all

/-- A faction is coupled with another one as often as a coupling joins them. -/
theorem divisorsOf_coupledWith (h : g ≠ f) :
    Ledger.divisorsOf g (cfg.coupledWith f) =
      (cfg.couplings.filter (·.Joins f g)).map Coupling.divisor := by
  unfold Ledger.divisorsOf coupledWith
  induction cfg.couplings with
  | nil => rfl
  | cons c rest ih =>
    rw [List.flatMap_cons, List.filter_append, List.map_append, ih, List.filter_cons]
    by_cases ha : c.a = f <;> by_cases hb : c.b = f
    · have hjoins : ¬ c.Joins f g := by
        rintro (⟨_, hg⟩ | ⟨hg, _⟩)
        · exact h (hg.symm.trans hb)
        · exact h (hg.symm.trans ha)
      simp [ha, hb, hjoins, h.symm]
    · have hjoins : c.Joins f g ↔ c.b = g := by simp [Coupling.Joins, ha, hb]
      by_cases hg : c.b = g <;> simp [ha, hb, hg, h, hjoins]
    · have hjoins : c.Joins f g ↔ c.a = g := by simp [Coupling.Joins, ha, hb]
      by_cases hg : c.a = g <;> simp [ha, hb, hg, h, hjoins]
    · have hjoins : ¬ c.Joins f g := by simp [Coupling.Joins, ha, hb]
      simp [ha, hb, hjoins]

/-- No faction is coupled with itself. -/
theorem divisorsOf_coupledWith_self (hsound : ∀ c ∈ cfg.couplings, c.Sound) (f : String) :
    Ledger.divisorsOf f (cfg.coupledWith f) = [] := by
  rw [Ledger.divisorsOf, List.map_eq_nil_iff, List.filter_eq_nil_iff]
  intro p hp hself
  obtain ⟨c, hc, _, hother⟩ := mem_coupledWith hp
  have hself : p.1 = f := of_decide_eq_true hself
  rcases hother with ⟨ha, hb⟩ | ⟨hb, ha⟩
  · exact (hsound c hc).distinct (by rw [ha, ← hb, hself])
  · exact (hsound c hc).distinct (by rw [hb, ← ha, hself])

end Settings

namespace Ledger

variable {cfg : Settings} {l : Ledger}

/-- The amounts that the couplings of two factions pass on from one to the other. -/
def passedOn (cfg : Settings) (f g : String) (n : Int) : List Int :=
  ((cfg.couplings.filter (·.Joins f g)).map Coupling.divisor).map (induced n)

/-- What a change of one reputation makes of all. -/
theorem get?_changeReputation (hcfg : cfg.reputation.min < cfg.reputation.max)
    (hsound : ∀ c ∈ cfg.couplings, c.Sound) (f : String) (n : Int) {name : String}
    (h : cfg.reputation.Holds (l.reputationOf name)) :
    Assoc.get? (l.changeReputation cfg f n).reputation name =
      if name = f then some (cfg.reputation.clip (l.reputationOf f + n))
      else cfg.reputation.moved (Assoc.get? l.reputation name) (passedOn cfg f name n) := by
  have hdivides : ∀ p ∈ cfg.coupledWith f, 0 < p.2 := by
    intro p hp
    obtain ⟨c, hc, hdivisor, _⟩ := Settings.mem_coupledWith hp
    exact hdivisor ▸ (hsound c hc).divides
  have hshifted := get?_shiftReputation cfg l f name n
  rw [changeReputation_passOn, get?_foldl_passOn hcfg n hdivides, hshifted]
  · split
    next hname =>
      rw [hname, Settings.divisorsOf_coupledWith_self hsound, List.map_nil, Bounds.moved_nil]
    next hname => rw [Settings.divisorsOf_coupledWith hname, passedOn]
  · rw [reputationOf, Assoc.getD, hshifted]
    split
    · exact Bounds.holds_clip hcfg _
    · exact h

theorem sum_passedOn (hsound : ∀ c ∈ cfg.couplings, c.Sound) (f g : String) (n : Int) :
    (passedOn cfg f g n).sum = ((cfg.couplings.filter (·.Joins f g)).map fun c =>
      towardsZero (-n / c.divisor)).sum := by
  rw [passedOn, List.map_map]
  congr 1
  refine List.map_congr_left fun c hc => ?_
  have hdivides := (hsound c (List.mem_of_mem_filter hc)).divides
  rw [Function.comp_apply, induced, tdiv_eq_towardsZero _ hdivides, Int.cast_neg]

theorem changeReputation_others (cfg : Settings) (l : Ledger) (f : String) (n : Int) :
    let m := l.changeReputation cfg f n
    m.flags = l.flags ∧ m.questState = l.questState ∧ m.relationship = l.relationship := by
  obtain ⟨shifts, hshifts⟩ := changeReputation_eq cfg f n
  rw [hshifts]
  clear hshifts
  induction shifts generalizing l with
  | nil => exact ⟨rfl, rfl, rfl⟩
  | cons p rest ih => exact ih (l.shiftReputation cfg p.1 p.2)

/-- Names that no coupling joins with a faction do not feel what happens to it. -/
theorem get?_changeReputation_of_apart (cfg : Settings) (l : Ledger) {f name : String}
    (hne : name ≠ f) (happart : ∀ c ∈ cfg.couplings, ¬ c.Joins f name) (n : Int) :
    Assoc.get? (l.changeReputation cfg f n).reputation name = Assoc.get? l.reputation name := by
  have hnone : ∀ p ∈ cfg.coupledWith f, p.1 ≠ name := by
    rintro p hp rfl
    obtain ⟨c, hc, _, ⟨ha, hb⟩ | ⟨hb, ha⟩⟩ := Settings.mem_coupledWith hp
    · exact happart c hc (.inl ⟨ha, hb.symm⟩)
    · exact happart c hc (.inr ⟨ha.symm, hb⟩)
  rw [changeReputation_passOn, get?_foldl_passOn_of_ne hnone, get?_shiftReputation, if_neg hne]

theorem passedOn_perm {ds : List Coupling} (h : Coupling.Rearranged cfg.couplings ds) (f g : String)
    (n : Int) : (passedOn cfg f g n).Perm (passedOn { cfg with couplings := ds } f g n) :=
  (h.divisors f g).map _

/-- Neither the order of the couplings counts nor which faction stands first in one. -/
theorem get?_changeReputation_rearranged (hcfg : cfg.reputation.min < cfg.reputation.max)
    (hsound : ∀ c ∈ cfg.couplings, c.Sound) {ds : List Coupling}
    (h : Coupling.Rearranged cfg.couplings ds)
    (hl : ∀ g : Faction, cfg.reputation.Holds (l.reputationOf g.word)) (f : Faction) (n : Int)
    (name : String) :
    Assoc.get? (l.changeReputation { cfg with couplings := ds } f.word n).reputation name =
      Assoc.get? (l.changeReputation cfg f.word n).reputation name := by
  have hsound' := h.sound hsound
  by_cases hname : Faction.isWord name = true
  · obtain ⟨g, rfl⟩ := Faction.exists_word hname
    have hrearranged :=
      @get?_changeReputation { cfg with couplings := ds } l hcfg hsound' f.word n _ (hl g)
    rw [hrearranged, get?_changeReputation hcfg hsound f.word n (hl g)]
    split
    · rfl
    · exact (Bounds.moved_perm (passedOn_perm h f.word g.word n) _).symm
  · have hne : name ≠ f.word := by
      rintro rfl
      exact hname f.isWord_word
    have happart {cs : List Coupling} (hcs : ∀ c ∈ cs, c.Sound) :
        ∀ c ∈ cs, ¬ c.Joins f.word name :=
      fun c hc hjoins => hname ((hcs c hc).of_joins hjoins)
    rw [get?_changeReputation_of_apart cfg l hne (happart hsound),
      get?_changeReputation_of_apart _ l hne (happart hsound')]

end Ledger

/-- A change of reputation comes to the ledger and to nothing else. -/
theorem Step.perform_reputationDelta (cfg : Settings) (w : Step.Wiring) (s : Session)
    (f : String) (n : Int) (fail : Bool) (id : Value) :
    Step.perform cfg w ⟨.reputationDelta, some f, n, fail, id⟩ s =
      .ok () { s with ledger := s.ledger.changeReputation cfg f n } := by
  obtain ⟨hooked, replaying⟩ := w
  cases hooked <;> cases replaying <;> rfl

end Questline
