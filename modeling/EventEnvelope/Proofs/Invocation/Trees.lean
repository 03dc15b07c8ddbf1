/-
  EventEnvelope.Proofs.Invocation.Trees
  ─────────────────────────────────────
  **What a message is made of that an invocation became.**

  A payload is read as a tree, and everything that a message takes from it is a part of that tree or
  a byte string.  So if the transport's headers are a tree as well, the headers of the message are
  one, and its payload is of one of four kinds.  Which texts the trees may hold is a parameter, as
  long as texts without surrogates are admitted.

    • `IsPayload`                — the four kinds of payload,
    • `partsOfTrees_partsResult` — sources, markers and body of every shape,
    • `tree_result`              — the headers and the payload of a message.
-/
import EventEnvelope.Proofs.Invocation.Events

namespace EventEnvelope

namespace Invocation

/-- The payloads that invocations come with: bytes, an event that wraps an object, an object or a
list. -/
inductive IsPayload (texts : Text → Prop) : Value → Prop
  | bytes (b : Bytes) : IsPayload texts (.bytes b)
  | event (cls : ClassObject) (fields : Fields) (own : OwnText)
      (h : Json.TreeOf texts (.object fields)) :
      IsPayload texts (.event cls (.object fields) own)
  | object (fields : Fields) (h : Json.TreeOf texts (.object fields)) :
      IsPayload texts (.object fields)
  | list (items : List Value) (h : Json.TreeOf texts (.list items)) :
      IsPayload texts (.list items)

/-- Parts that are made of trees. -/
structure PartsOfTrees (texts : Text → Prop) (parts : Parts) : Prop where
  body : IsPayload texts parts.body
  sources : ∀ source ∈ parts.sources, Json.TreeOf texts (.object (source.getD []))
  markers : Json.TreeOf texts (.object parts.markers)

variable {texts : Text → Prop}

theorem tree_nil : Json.TreeOf texts (.object []) :=
  .object [] OrderedMap.distinct_nil (by simp) (by simp)

theorem tree_singleton {t : Text} {v : Value} (ht : texts t)
    (hv : Json.TreeOf texts v) :
    Json.TreeOf texts (.object [(.text t, v)]) := by
  refine .object _ (OrderedMap.distinct_cons.mpr ⟨by simp, OrderedMap.distinct_nil⟩) ?_ ?_
  · exact List.forall_mem_singleton.mpr ⟨t, rfl, ht⟩
  · exact List.forall_mem_singleton.mpr hv

theorem tree_nestedHeaders {fields : Fields}
    (h : Json.TreeOf texts (.object fields)) :
    ∀ source ∈ nestedHeaders fields,
      Json.TreeOf texts (.object (source.getD [])) := by
  intro source hsource
  unfold nestedHeaders at hsource
  split at hsource
  next nested hnested =>
    rw [List.mem_singleton.mp hsource]
    exact h.of_get? hnested
  next => cases hsource

section

variable (hplain : ∀ t : Text, t.hasSurrogate = false → texts t)
include hplain

theorem tree_gatewayMarkers : Json.TreeOf texts (.object gatewayMarkers) :=
  tree_singleton (hplain _ (by decide)) (.bool true)

theorem partsOfTrees_gatewayParts {fields : Fields} {takesObjects : Bool} {parts : Parts}
    (hfields : Json.TreeOf texts (.object fields))
    (h : gatewayParts fields takesObjects = .ok parts) : PartsOfTrees texts parts := by
  cases takesObjects with
  | true =>
      cases h
      refine ⟨.object _ (hfields.erase _),
        List.forall_mem_cons.mpr ⟨?_, tree_nestedHeaders hfields⟩, tree_gatewayMarkers hplain⟩
      exact tree_singleton (hplain _ (by decide)) (hfields.getD_null _)
  | false =>
      obtain ⟨bytes, -, hparts⟩ := bind_eq_ok.mp h
      cases hparts
      exact ⟨.bytes bytes,
        List.forall_mem_cons.mpr ⟨(hfields.erase _).erase _, tree_nestedHeaders hfields⟩,
        tree_gatewayMarkers hplain⟩

/-- **The parts of every shape are made of trees.** -/
theorem partsOfTrees_partsResult {call : Invocation} {own : EventTexts} {settings : Settings}
    {declared : DeclaredType} {parts : Parts}
    (hread : ∀ v, Codec.loads (.bytes call.payload) = .ok v →
      Json.TreeOf texts v)
    (h : partsResult (.standard own) settings declared call.payload call.shape = .ok parts) :
    PartsOfTrees texts parts := by
  cases hshape : call.shape with
  | typed family =>
      rw [hshape] at h
      obtain ⟨event, hevent, hparts⟩ := bind_eq_ok.mp h
      cases hparts
      obtain ⟨cls, family', decoder, -, -, hdecoder, hdecoded⟩ :=
        Registry.decodeResult_eq_ok.mp hevent
      rw [Registry.get?_standard] at hdecoder
      cases hdecoder
      -- the decoder that families start with wraps the object that was read
      rcases Registry.wrapObject_cases own call.payload cls with ⟨fields, hloads, hwrap⟩
        | ⟨-, failure, hwrap, -⟩
      · rw [hwrap] at hdecoded
        cases hdecoded
        refine ⟨.event cls fields _ (hread _ hloads), by simp, ?_⟩
        show Json.Tree _ _ (.object (if _ then _ else _))
        split
        · exact tree_gatewayMarkers hplain
        · exact tree_nil
      · rw [hwrap] at hdecoded
        cases hdecoded
  | object fields =>
      have hfields := hread _ (loads_of_object hshape)
      rw [hshape, partsResult] at h
      split at h
      · exact partsOfTrees_gatewayParts hplain hfields h
      · cases h
        exact ⟨.bytes _, tree_nestedHeaders hfields, tree_nil⟩
  | array items =>
      have hitems := hread _ (loads_of_array hshape)
      rw [hshape] at h
      cases h
      exact ⟨.list items hitems, by simp, tree_nil⟩
  | raw v fault =>
      -- whatever stays raw is handed over as bytes, without headers of its own
      have hraw : parts = { body := .bytes call.payload } := by
        rw [hshape] at h
        cases fault with
        | none =>
            cases h
            rfl
        | some fault =>
            rw [partsResult] at h
            split at h
            · cases h
              rfl
            · cases h
      rw [hraw]
      exact ⟨.bytes _, by simp, tree_nil⟩

/-- **Headers and payload of a message are made of trees**, if the transport's headers are a tree
and there is no context. -/
theorem tree_result {call : Invocation} {own : EventTexts} {settings : Settings} {m : Message}
    (hread : ∀ v, Codec.loads (.bytes call.payload) = .ok v →
      Json.TreeOf texts v)
    (hheaders : Json.TreeOf texts (.object (call.headers.getD [])))
    (hcontext : call.context = .null) (h : call.result (.standard own) settings = .ok m) :
    IsPayload texts m.payload ∧ Json.TreeOf texts (.object m.headers) := by
  obtain ⟨parts, hparts, hmessage⟩ := bind_eq_ok.mp h
  obtain ⟨hbody, hsources, hmarkers⟩ := partsOfTrees_partsResult hplain hread hparts
  obtain ⟨-, hpayload, hmap⟩ := messageOf_eq_ok hmessage
  rw [hpayload, hmap, headersOf, hcontext]
  refine ⟨hbody, Json.tree_merge (fun source hsource => ?_) hmarkers⟩
  rcases List.mem_append.mp hsource with hsource | hsource
  · exact hsources source hsource
  · rw [List.mem_singleton.mp hsource]
    exact hheaders

end

end Invocation

end EventEnvelope
