/-
  EventEnvelope.Proofs.Message.Merging
  ────────────────────────────────────
  **Merged headers as an ordered map.**

  Header sources are written one after the other, and the markers after all of them.  A value that
  is written again replaces the one before it, a key keeps the place that it took first; so values
  and places are decided from opposite ends of the list of sources.

    • `IsMerge`                — the map that sources and markers should merge to,
    • `isMerge_mergeHeaders`   — they do, at once or in stages.
-/
import EventEnvelope.Message
import EventEnvelope.Proofs.OrderedMap

namespace EventEnvelope

/-- The map that header sources and markers merge to; what is missing counts as an empty map. -/
structure IsMerge (sources : List (Option Fields)) (markers : Option Fields) (merged : Fields) :
    Prop where
  /-- Every key is there at most once. -/
  distinct : merged.Distinct
  /-- A key holds what the markers hold there, or else what the last source with that key holds; no
  other key holds anything. -/
  value : ∀ key, merged.get? key
    = ((markers.getD []).get? key).or
        (sources.reverse.findSome? fun source => (source.getD []).get? key)
  /-- The keys come in the order of their first appearance over the sources in turn and then the
  markers. -/
  order : merged.keys
    = (sources.flatMap (fun source => OrderedMap.keys (source.getD []))
        ++ OrderedMap.keys (markers.getD [])).eraseDups

/-- **Merged headers are an ordered map.**  From the markers and from the last source, a key gets
its value; from the first one that has it, its place.  And wherever the sources are parted, those in
front may be merged first. -/
theorem isMerge_mergeHeaders (sources : List (Option Fields)) (markers : Option Fields)
    (hsources : ∀ source, some source ∈ sources → source.Distinct)
    (hmarkers : ∀ source, markers = some source → source.Distinct) :
    IsMerge sources markers (mergeHeaders sources markers)
      ∧ ∀ first rest, sources = first ++ rest →
          mergeHeaders (some (mergeHeaders first none) :: rest) markers
            = mergeHeaders sources markers := by
  have hmaps : ∀ source ∈ sources, OrderedMap.Distinct (source.getD []) := by
    intro source hsource
    refine OrderedMap.distinct_getD fun m hm => hsources m ?_
    rw [← hm]
    exact hsource
  refine ⟨⟨OrderedMap.distinct_merge sources markers, fun key => ?_,
    OrderedMap.keys_merge sources markers⟩, ?_⟩
  · rw [mergeHeaders, OrderedMap.get?_merge sources markers key hmaps
      (OrderedMap.distinct_getD hmarkers), OrderedMap.lastValue?_eq_findSome?]
  · rintro first rest rfl
    exact OrderedMap.merge_merge first rest markers

/-- Two sources and a marker that meet on a key, with an empty source and a missing one between. -/
def meetingSources : List (Option Fields) :=
  [some [(.text "path", .text "/field"), (.text "trace", .int 1)], none, some [],
    some [(.text "host", .null), (.text "path", .text "/transport"), (.text "trace", .int 2)]]

/-- A marker on a key of both sources, and one on a new key. -/
def meetingMarkers : Option Fields :=
  some [(.text "trace", .bool true), (.text "context", .int 0)]

theorem isMerge_meetingSources :
    ((∀ source, some source ∈ meetingSources → source.Distinct)
        ∧ ∀ source, meetingMarkers = some source → source.Distinct)
      ∧ IsMerge meetingSources meetingMarkers
          [(.text "path", .text "/transport"), (.text "trace", .bool true), (.text "host", .null),
            (.text "context", .int 0)] := by
  have hsources : ∀ source, some source ∈ meetingSources → source.Distinct := by
    intro source hmem
    simp only [meetingSources, List.mem_cons, Option.some.injEq, List.not_mem_nil, or_false,
      reduceCtorEq, false_or] at hmem
    rcases hmem with rfl | rfl | rfl
    · exact OrderedMap.distinct_iff_keys.mpr (by decide)
    · exact OrderedMap.distinct_nil
    · exact OrderedMap.distinct_iff_keys.mpr (by decide)
  have hmarkers : ∀ source, meetingMarkers = some source → source.Distinct := by
    intro source hsome
    cases hsome
    exact OrderedMap.distinct_iff_keys.mpr (by decide)
  exact ⟨⟨hsources, hmarkers⟩,
    (isMerge_mergeHeaders meetingSources meetingMarkers hsources hmarkers).1⟩

end EventEnvelope
