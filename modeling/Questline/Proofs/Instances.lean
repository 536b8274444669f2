import Questline.Proofs.Steps
import Questline.Proofs.Tables
import Questline.Session.Dispatch

/-! Finding and changing the instances of graphs, and what the small steps of a session leave
behind. -/

namespace Questline

namespace Session

def graphs (s : Session) : List Graph := s.instances.map (·.graph)

def graphNames (s : Session) : List String := s.instances.map (·.graph.id)

theorem mem_of_instance? {s : Session} {g : String} {i : Instance} (h : s.instance? g = some i) :
    i ∈ s.instances :=
  List.mem_of_find?_eq_some h

theorem id_of_instance? {s : Session} {g : String} {i : Instance} (h : s.instance? g = some i) :
    i.graph.id = g := by
  simpa using List.find?_some h

theorem instance?_of_mem {s : Session} {i : Instance} (hs : s.graphNames.Nodup)
    (h : i ∈ s.instances) : s.instance? i.graph.id = some i :=
  find?_of_distinct hs h

theorem updateInstance_of_none {s : Session} {g : String} (h : s.instance? g = none)
    (f : Instance → Instance) : (s.updateInstance g f).instances = s.instances := by
  unfold updateInstance
  conv_rhs => rw [← List.map_id s.instances]
  apply List.map_congr_left
  intro i hi
  have hne := List.find?_eq_none.1 h i hi
  simp_all

section Update

variable {f : Instance → Instance} (hf : ∀ i, (f i).graph = i.graph)
include hf

theorem instance?_updateInstance (s : Session) (g h : String) :
    (s.updateInstance g f).instance? h =
      (s.instance? h).map fun i => if i.graph.id = g then f i else i := by
  unfold instance? updateInstance
  rw [List.find?_map]
  congr 2
  funext i
  simp only [Function.comp]
  split <;> simp [hf]

theorem instance?_updateInstance_self {s : Session} {g : String} {i : Instance}
    (h : s.instance? g = some i) : (s.updateInstance g f).instance? g = some (f i) := by
  rw [instance?_updateInstance hf, h]
  simp [id_of_instance? h]

theorem updateInstance_updateInstance (s : Session) (g : String) (f' : Instance → Instance) :
    (s.updateInstance g f).updateInstance g f' = s.updateInstance g (f' ∘ f) := by
  unfold updateInstance
  rw [List.map_map]
  congr 1
  apply List.map_congr_left
  intro i _
  simp only [Function.comp]
  split <;> simp_all

end Update

theorem graphNames_eq (s : Session) : s.graphNames = s.graphs.map (·.id) := by
  simp [graphNames, graphs]

theorem instance?_isSome {s : Session} {g : String} :
    (s.instance? g).isSome = true ↔ g ∈ s.graphNames := by
  simp [instance?, graphNames, List.find?_isSome]

theorem graphNames_congr {s t : Session} (h : t.graphs = s.graphs) :
    t.graphNames = s.graphNames := by
  rw [graphNames_eq, graphNames_eq, h]

theorem instance?_congr {s t : Session} (h : t.graphs = s.graphs) (g : String) :
    (t.instance? g).map (·.graph) = (s.instance? g).map (·.graph) := by
  have find (l : List Instance) : (l.find? (·.graph.id = g)).map (·.graph) =
      (l.map (·.graph)).find? (·.id = g) := by
    rw [List.find?_map]
    rfl
  rw [instance?, instance?, find, find]
  exact congrArg (List.find? (·.id = g)) h

end Session

end Questline
