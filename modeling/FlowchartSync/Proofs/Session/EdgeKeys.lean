import FlowchartSync.Session
import FlowchartSync.Proofs.Diagram.RoundTrip
import Mathlib.Data.List.Nodup

/-!
# Keys of live edges

A key is the ids of two nodes with a hyphen between them.  No hyphen stands in an identifier, so
the key of an edge between nodes with proper ids names one ordered pair (`edgeKey_inj`).  Leaving
out the edges that have the key of an earlier one therefore keeps the first edge of each ordered
pair (`ofEdges_eq_map`).
-/

namespace FlowchartSync

open Text

/-- The key of two nodes names this ordered pair alone. -/
theorem edgeKey_inj
    {source target source' target' : String}
    (hsource : isIdentifier source.toList = true)
    (hsource' : isIdentifier source'.toList = true)
    (h : edgeKey source target = edgeKey source' target') :
    source = source' ∧ target = target' := by
  have hhyphen : isIdentifierChar '-' = false := by
    decide
  have hlist :
      source.toList ++ '-' :: target.toList = source'.toList ++ '-' :: target'.toList := by
    simpa [edgeKey] using congrArg String.toList h
  obtain ⟨hleft, hright⟩ :=
    append_cons_inj (not_mem_identifier hsource hhyphen) (not_mem_identifier hsource' hhyphen)
      hlist
  exact ⟨String.toList_inj.mp hleft, String.toList_inj.mp hright⟩

/-- The first edge of each ordered pair of nodes. -/
def Edge.withoutParallels : List Edge → List Edge
  | [] => []
  | edge :: edges =>
      edge :: (withoutParallels edges).filter fun later =>
        !(later.source == edge.source && later.target == edge.target)

theorem Edge.mem_of_mem_withoutParallels
    {edges : List Edge} {edge : Edge}
    (h : edge ∈ withoutParallels edges) :
    edge ∈ edges := by
  induction edges with
  | nil =>
      exact h
  | cons first edges ih =>
      rcases List.mem_cons.mp h with rfl | h
      · exact List.mem_cons_self
      · exact List.mem_cons_of_mem first (ih (List.mem_filter.mp h).1)

namespace LiveEdge

/-- Whether an edge has the key of its ends. -/
def IsKeyed (edge : LiveEdge) : Prop :=
  edge.key = edgeKey edge.source edge.target

theorem isKeyed_ofEdge
    (edge : Edge) :
    (ofEdge edge).IsKeyed := by
  rfl

/-- The live edge of an edge shows the same as the edge. -/
theorem toEdge_ofEdge
    (edge : Edge) :
    (ofEdge edge).toEdge = edge.normal := by
  obtain ⟨source, target, label, style⟩ := edge
  cases label with
  | none =>
      rfl
  | some label =>
      by_cases hempty : label = ""
      · simp [ofEdge, toEdge, between, Edge.normal, Edge.shownLabel, Option.filter, hempty]
      · simp [ofEdge, toEdge, between, Edge.normal, Edge.shownLabel, Option.filter, hempty]

/-- A live edge with the key of its ends is given back by its edge. -/
theorem ofEdge_toEdge
    {edge : LiveEdge}
    (h : edge.IsKeyed) :
    ofEdge edge.toEdge = edge := by
  obtain ⟨key, source, target, label, style⟩ := edge
  have hkey : key = edgeKey source target := h
  by_cases hempty : label = ""
  · simp [ofEdge, toEdge, between, hempty, hkey]
  · simp [ofEdge, toEdge, between, hempty, hkey]

/-- The edge of a live edge shows just what it says. -/
theorem normal_toEdge
    (edge : LiveEdge) :
    edge.toEdge.normal = edge.toEdge := by
  unfold toEdge Edge.normal Edge.shownLabel
  by_cases hempty : edge.label = ""
  · simp [hempty]
  · simp [hempty, Option.filter]

section Parallels

theorem mem_of_mem_withoutParallels
    {edges : List LiveEdge} {edge : LiveEdge}
    (h : edge ∈ withoutParallels edges) :
    edge ∈ edges := by
  induction edges with
  | nil =>
      exact h
  | cons first edges ih =>
      rcases List.mem_cons.mp h with rfl | h
      · exact List.mem_cons_self
      · exact List.mem_cons_of_mem first (ih (List.mem_filter.mp h).1)

theorem nodup_keys_withoutParallels
    (edges : List LiveEdge) :
    ((withoutParallels edges).map key).Nodup := by
  induction edges with
  | nil =>
      exact List.nodup_nil
  | cons first edges ih =>
      rw [withoutParallels, List.map_cons, List.nodup_cons]
      constructor
      · intro hmem
        obtain ⟨later, hlater, hkey⟩ := List.mem_map.mp hmem
        simpa [hkey] using (List.mem_filter.mp hlater).2
      · exact ih.sublist (List.filter_sublist.map key)

theorem withoutParallels_of_nodup
    {edges : List LiveEdge}
    (h : (edges.map key).Nodup) :
    withoutParallels edges = edges := by
  induction edges with
  | nil =>
      rfl
  | cons first edges ih =>
      rw [List.map_cons, List.nodup_cons] at h
      have hall : ∀ later ∈ edges, (later.key != first.key) = true := by
        intro later hlater
        have hne : later.key ≠ first.key := fun hkey => h.1 (hkey ▸ List.mem_map_of_mem hlater)
        simpa using hne
      rw [withoutParallels, ih h.2, List.filter_eq_self.mpr hall]

/-- The live edges of some edges are the first edges of each ordered pair. -/
theorem ofEdges_eq_map
    {edges : List Edge}
    (h : ∀ edge ∈ edges, isIdentifier edge.source.toList = true) :
    ofEdges edges = (Edge.withoutParallels edges).map ofEdge := by
  unfold ofEdges
  induction edges with
  | nil =>
      rfl
  | cons first edges ih =>
      rw [List.forall_mem_cons] at h
      rw [List.map_cons, withoutParallels, ih h.2, Edge.withoutParallels, List.map_cons,
        List.filter_map]
      congr 2
      apply List.filter_congr
      intro later hlater
      have hlater := h.2 later (Edge.mem_of_mem_withoutParallels hlater)
      have hiff :
          edgeKey later.source later.target = edgeKey first.source first.target ↔
            later.source = first.source ∧ later.target = first.target := by
        constructor
        · exact edgeKey_inj hlater h.1
        · rintro ⟨hsource, htarget⟩
          rw [hsource, htarget]
      simp [ofEdge, between, bne, beq_eq_decide, hiff]

end Parallels

end LiveEdge
end FlowchartSync
