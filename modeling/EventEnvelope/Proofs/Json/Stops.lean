/-
  EventEnvelope.Proofs.Json.Stops
  ───────────────────────────────
  **Where the writer stops for a reason that the codec does not know.**

  There are two such reasons.  A decimal is written as a number, and some decimals have none in the
  arithmetic context: infinities, signaling values, and numbers with more digits before the point
  than the context holds.  And a record is copied before it is written, which never ends if the copy
  comes to a value that contains itself.  The writer goes through a value in order and stops at the
  first thing it cannot write, so it stops for one of these reasons exactly if it comes to such a
  decimal or record and everything before it can be written.

    • `Decimal.HasNoNumber`       — the decimals without a number,
    • `WriteFault.IsForeign`      — the two faults,
    • `StopsAt`                   — the writer comes to one of them,
    • `write_eq_foreign_error`    — that is when, and only when, writing fails so.
-/
import EventEnvelope.Proofs.Json.Copies
import EventEnvelope.Proofs.Json.Trees

namespace EventEnvelope

namespace Decimal

/-- A decimal without a number, and why. -/
inductive HasNoNumber : Decimal → DecimalFault → Prop
  | infinity (negative : Bool) : HasNoNumber (.infinity negative) .invalidOperation
  | signaling (negative : Bool) (diagnostic : Nat) :
      HasNoNumber (.nan negative true diagnostic) .invalidOperation
  /-- More digits before the point than the context holds. -/
  | large (negative : Bool) (c : Nat) (e : Int) (hc : c ≠ 0)
      (hlarge : precision < digitCount c + e) :
      HasNoNumber (.finite negative c e) .divisionImpossible

theorem isWhole_eq_error {x : Decimal} {fault : DecimalFault} :
    x.isWhole = .error fault ↔ HasNoNumber x fault := by
  constructor
  · intro h
    cases x with
    | finite negative c e =>
        rw [isWhole] at h
        split at h
        · cases h
        next hc =>
          split at h
          next hlarge =>
            cases h
            exact .large negative c e hc hlarge
          next => cases h
    | infinity negative =>
        cases h
        exact .infinity negative
    | nan negative signaling diagnostic =>
        cases signaling with
        | true =>
            cases h
            exact .signaling negative diagnostic
        | false => cases h
  · rintro (negative | ⟨negative, diagnostic⟩ | ⟨negative, c, e, hc, hlarge⟩)
    · rfl
    · rfl
    · rw [isWhole, if_neg hc, if_pos hlarge]

/-- A decimal has a number unless the remainder by one has no value. -/
theorem toNumber_eq_error {x : Decimal} {fault : DecimalFault} :
    x.toNumber = .error fault ↔ HasNoNumber x fault := by
  rw [← isWhole_eq_error]
  unfold toNumber
  cases hwhole : x.isWhole with
  | error cause => simp [bind, Except.bind]
  | ok whole => cases x <;> cases whole <;> simp [bind, Except.bind, pure, Except.pure]

end Decimal

namespace Json

variable {style : Style}

/-! ## §1. Leaves. -/

/-- The faults that are no matter of the codec: of arithmetic, and of a copy without end. -/
inductive WriteFault.IsForeign : WriteFault → Prop
  | decimal (fault : DecimalFault) : IsForeign (.decimal fault)
  | endless : IsForeign .endless

variable {fault : WriteFault}

theorem writeInt_ne_foreign (hfault : fault.IsForeign) (n : Int) : writeInt n ≠ .error fault := by
  intro h
  unfold writeInt at h
  split at h
  · cases h
  · cases h
    cases hfault

theorem writeBytes_ne_foreign (hfault : fault.IsForeign) (b : Bytes) :
    writeBytes b ≠ .error fault := by
  intro h
  unfold writeBytes at h
  split at h
  · cases h
  · cases h
    cases hfault

/-- A key is never such a matter. -/
theorem keyText_ne_foreign (hfault : fault.IsForeign) (key : Value) :
    keyText key ≠ .error fault := by
  intro h
  unfold keyText at h
  split at h
  case h_4 n => exact writeInt_ne_foreign hfault n h
  case h_7 =>
    cases h
    cases hfault
  all_goals cases h

theorem writeDecimal_of_hasNoNumber {x : Decimal} {cause : DecimalFault}
    (h : x.HasNoNumber cause) : writeDecimal x = .error (.decimal cause) := by
  unfold writeDecimal
  rw [Decimal.toNumber_eq_error.mpr h]

theorem hasNoNumber_of_writeDecimal (hfault : fault.IsForeign) {x : Decimal}
    (h : writeDecimal x = .error fault) :
    ∃ cause, fault = .decimal cause ∧ x.HasNoNumber cause := by
  unfold writeDecimal at h
  split at h
  next n _ => exact absurd h (writeInt_ne_foreign hfault n)
  next => cases h
  next cause hnumber =>
    cases h
    exact ⟨cause, rfl, Decimal.toNumber_eq_error.mp hnumber⟩

/-! ## §2. Where the writer stops. -/

/-- Writing in this style and at this level comes to a decimal without a number, or to a record or a
message whose copy never ends: everything before it, in the order of writing, can be written. -/
inductive StopsAt (style : Style) : Nat → Value → WriteFault → Prop
  | decimal (level : Nat) (x : Decimal) (cause : DecimalFault) (hx : x.HasNoNumber cause) :
      StopsAt style level (.decimal x) (.decimal cause)
  /-- A record is copied before it is written, and so is a message. -/
  | copy (level : Nat) (className : Text) (fields : List (Text × Value))
      (hcopy : EndlessCopy (.record className fields)) :
      StopsAt style level (.record className fields) .endless
  | message (level : Nat) (payload : Value) (headers : Fields) (hcopy : EndlessCopy payload) :
      StopsAt style level (.message payload headers) .endless
  | list (level : Nat) (before : List Value) (v : Value) (after : List Value)
      (fault : WriteFault) (hbefore : ∀ u ∈ before, ∃ text, write style (level + 1) u = .ok text)
      (hv : StopsAt style (level + 1) v fault) :
      StopsAt style level (.list (before ++ v :: after)) fault
  | tuple (level : Nat) (before : List Value) (v : Value) (after : List Value)
      (fault : WriteFault) (hbefore : ∀ u ∈ before, ∃ text, write style (level + 1) u = .ok text)
      (hv : StopsAt style (level + 1) v fault) :
      StopsAt style level (.tuple (before ++ v :: after)) fault
  | object (level : Nat) (before : Fields) (k v : Value) (after : Fields)
      (fault : WriteFault)
      (hbefore : ∀ e ∈ before, ∃ entry, WritesField style (level + 1) e entry)
      (hk : ∃ key, keyText k = .ok key) (hv : StopsAt style (level + 1) v fault) :
      StopsAt style level (.object (before ++ (k, v) :: after)) fault
  /-- An event is written as the object it wraps, -/
  | event (level : Nat) (cls : ClassObject) (raw : Value) (own : OwnText) (fault : WriteFault)
      (hraw : StopsAt style level raw fault) : StopsAt style level (.event cls raw own) fault
  /-- and a record that has been copied as the object of its fields. -/
  | record (level : Nat) (className : Text) (fields : List (Text × Value)) (fault : WriteFault)
      (hcopy : namedCopyFault? fields = none)
      (hfields : StopsAt style level (.object (keyed fields)) fault) :
      StopsAt style level (.record className fields) fault

/-- The writer stops for one of the two reasons only. -/
theorem StopsAt.isForeign {level : Nat} {v : Value} (h : StopsAt style level v fault) :
    fault.IsForeign := by
  induction h with
  | decimal _ _ cause => exact .decimal cause
  | copy => exact .endless
  | message => exact .endless
  | list _ _ _ _ _ _ _ ih => exact ih
  | tuple _ _ _ _ _ _ _ ih => exact ih
  | object _ _ _ _ _ _ _ _ _ ih => exact ih
  | event _ _ _ _ _ _ ih => exact ih
  | record _ _ _ _ _ _ ih => exact ih

/-! ## §3. The writer stops there. -/

theorem writeItems_error {level : Nat} {before after : List Value} {v : Value} {fault : WriteFault}
    (hbefore : ∀ u ∈ before, ∃ text, write style level u = .ok text)
    (hv : write style level v = .error fault) :
    writeItems style level (before ++ v :: after) = .error fault := by
  induction before with
  | nil =>
      rw [List.nil_append, writeItems, hv]
      rfl
  | cons u rest ih =>
      obtain ⟨⟨text, htext⟩, hrest⟩ := List.forall_mem_cons.mp hbefore
      rw [List.cons_append, writeItems, htext, ok_bind, ih hrest]
      rfl

theorem writeFields_error {level : Nat} {before after : Fields} {k v : Value} {fault : WriteFault}
    (hbefore : ∀ e ∈ before, ∃ entry, WritesField style level e entry)
    (hk : ∃ key, keyText k = .ok key) (hv : write style level v = .error fault) :
    writeFields style level (before ++ (k, v) :: after) = .error fault := by
  induction before with
  | nil =>
      obtain ⟨key, hkey⟩ := hk
      rw [List.nil_append, writeFields, hkey, ok_bind, hv]
      rfl
  | cons field rest ih =>
      obtain ⟨⟨entry, key, text, hkey, htext, -⟩, hrest⟩ := List.forall_mem_cons.mp hbefore
      obtain ⟨k', v'⟩ := field
      rw [List.cons_append, writeFields, hkey, ok_bind, htext, ok_bind, ih hrest]
      rfl

theorem write_of_stopsAt (hstyle : style.fallback = .convert) {level : Nat} {v : Value}
    (h : StopsAt style level v fault) : write style level v = .error fault := by
  induction h with
  | decimal level x cause hx =>
      rw [write, substitute_convert hstyle]
      exact writeDecimal_of_hasNoNumber hx
  | copy level className fields hcopy =>
      have hfault : namedCopyFault? fields = some .endless := copyFault?_eq_endless_iff.mpr hcopy
      rw [write, substitute_convert hstyle, hfault]
  | message level payload headers hcopy =>
      rw [write, substitute_convert hstyle, copyFault?_eq_endless_iff.mpr hcopy]
      rfl
  | list level before v after fault hbefore _ ih =>
      rw [write, writeItems_error hbefore ih]
      rfl
  | tuple level before v after fault hbefore _ ih =>
      rw [write, writeItems_error hbefore ih]
      rfl
  | object level before k v after fault hbefore hk _ ih =>
      rw [write, writeFields_error hbefore hk ih]
      rfl
  | event level cls raw own fault _ ih =>
      rw [write, substitute_convert hstyle]
      exact ih
  | record level className fields fault hcopy _ ih =>
      rw [write_record hstyle level className hcopy]
      exact ih

/-! ## §4. It stops nowhere else for that reason. -/

-- The recursion is that of the writer: over a value, its elements and its fields.
mutual

theorem stopsAt_of_write (hstyle : style.fallback = .convert) {fault : WriteFault}
    (hfault : fault.IsForeign) :
    ∀ (v : Value) (level : Nat), write style level v = .error fault → StopsAt style level v fault
  | .decimal x, level, h => by
      rw [write, substitute_convert hstyle] at h
      obtain ⟨cause, rfl, hx⟩ := hasNoNumber_of_writeDecimal hfault h
      exact .decimal level x cause hx
  | .list items, level, h => by
      rw [write] at h
      rcases bind_eq_error.mp h with h | ⟨entries, -, h⟩
      · obtain ⟨before, v, after, rfl, hbefore, hv⟩ := stopsAt_of_writeItems hstyle hfault items _ h
        exact .list level before v after fault hbefore hv
      · cases h
  | .tuple items, level, h => by
      rw [write] at h
      rcases bind_eq_error.mp h with h | ⟨entries, -, h⟩
      · obtain ⟨before, v, after, rfl, hbefore, hv⟩ := stopsAt_of_writeItems hstyle hfault items _ h
        exact .tuple level before v after fault hbefore hv
      · cases h
  | .object fields, level, h => by
      rw [write] at h
      rcases bind_eq_error.mp h with h | ⟨entries, -, h⟩
      · obtain ⟨before, k, v, after, rfl, hbefore, hk, hv⟩ :=
          stopsAt_of_writeFields hstyle hfault fields _ h
        exact .object level before k v after fault hbefore hk hv
      · cases h
  | .event cls raw own, level, h => by
      rw [write, substitute_convert hstyle] at h
      exact .event level cls raw own fault (stopsAt_of_write hstyle hfault raw level h)
  | .record className fields, level, h => by
      rw [write, substitute_convert hstyle] at h
      split at h
      next cause hcopy =>
        -- the copy is refused, which the codec knows, or it does not end
        cases h
        rcases copyFault?_eq_some (.record className fields) hcopy with rfl | rfl
        · exact .copy level className fields (copyFault?_eq_endless_iff.mp hcopy)
        · cases hfault
      next hcopy =>
        rcases bind_eq_error.mp h with h | ⟨entries, -, h⟩
        · obtain ⟨before, name, v, after, rfl, hbefore, hv⟩ :=
            stopsAt_of_writeNamed hstyle hfault fields _ h
          have hobject := StopsAt.object level (keyed before) (.text name) v (keyed after) fault
            hbefore ⟨name, rfl⟩ hv
          refine .record level className _ fault hcopy ?_
          rw [keyed, List.map_append, List.map_cons]
          exact hobject
        · cases h
  | .message payload headers, level, h => by
      rw [write, substitute_convert hstyle] at h
      cases hcopy : copyFault? payload with
      | none =>
          rw [hcopy] at h
          cases h
          cases hfault
      | some cause =>
          rw [hcopy] at h
          cases h
          rcases copyFault?_eq_some payload hcopy with rfl | rfl
          · exact .message level payload headers (copyFault?_eq_endless_iff.mp hcopy)
          · cases hfault
  -- nothing else is such a matter
  | .null, _, h => by cases h
  | .bool _, _, h => by cases h
  | .int n, _, h => by
      rw [write] at h
      exact absurd h (writeInt_ne_foreign hfault n)
  | .status _, _, h => by cases h
  | .float _, _, h => by cases h
  | .text _, _, h => by cases h
  | .circularList, _, h => by
      cases h
      cases hfault
  | .circularObject, _, h => by
      cases h
      cases hfault
  | .bytes b, _, h => by
      rw [write, substitute_convert hstyle] at h
      exact absurd h (writeBytes_ne_foreign hfault b)
  | .buffer b, _, h => by
      rw [write, substitute_convert hstyle] at h
      exact absurd h (writeBytes_ne_foreign hfault b)
  | .dateTime t, _, h => by
      rw [write, substitute_convert hstyle] at h
      exact absurd h (writeInt_ne_foreign hfault _)
  | .date d, _, h => by
      rw [write, substitute_convert hstyle] at h
      cases h
  | .time t, _, h => by
      rw [write, substitute_convert hstyle] at h
      cases h
  | .unknown _, _, h => by
      rw [write, substitute_convert hstyle] at h
      cases h
      cases hfault
  | .type _, _, h => by
      rw [write, substitute_convert hstyle] at h
      cases h
      cases hfault

theorem stopsAt_of_writeItems (hstyle : style.fallback = .convert) {fault : WriteFault}
    (hfault : fault.IsForeign) :
    ∀ (items : List Value) (level : Nat), writeItems style level items = .error fault →
      ∃ before v after, items = before ++ v :: after
        ∧ (∀ u ∈ before, ∃ text, write style level u = .ok text) ∧ StopsAt style level v fault
  | [], _, h => by cases h
  | v :: rest, level, h => by
      rw [writeItems] at h
      rcases bind_eq_error.mp h with h | ⟨text, htext, h⟩
      · exact ⟨[], v, rest, rfl, by simp, stopsAt_of_write hstyle hfault v level h⟩
      rcases bind_eq_error.mp h with h | ⟨texts, -, h⟩
      · obtain ⟨before, u, after, rfl, hbefore, hu⟩ :=
          stopsAt_of_writeItems hstyle hfault rest level h
        exact ⟨v :: before, u, after, rfl, List.forall_mem_cons.mpr ⟨⟨text, htext⟩, hbefore⟩, hu⟩
      · cases h

theorem stopsAt_of_writeFields (hstyle : style.fallback = .convert) {fault : WriteFault}
    (hfault : fault.IsForeign) :
    ∀ (fields : List (Value × Value)) (level : Nat),
      writeFields style level fields = .error fault →
        ∃ before k v after, fields = before ++ (k, v) :: after
          ∧ (∀ e ∈ before, ∃ entry, WritesField style level e entry)
          ∧ (∃ key, keyText k = .ok key) ∧ StopsAt style level v fault
  | [], _, h => by cases h
  | (k, v) :: rest, level, h => by
      rw [writeFields] at h
      rcases bind_eq_error.mp h with h | ⟨key, hkey, h⟩
      · exact absurd h (keyText_ne_foreign hfault k)
      rcases bind_eq_error.mp h with h | ⟨text, htext, h⟩
      · exact ⟨[], k, v, rest, rfl, by simp, ⟨key, hkey⟩,
          stopsAt_of_write hstyle hfault v level h⟩
      rcases bind_eq_error.mp h with h | ⟨texts, -, h⟩
      · obtain ⟨before, k', u, after, rfl, hbefore, hk', hu⟩ :=
          stopsAt_of_writeFields hstyle hfault rest level h
        have hfirst : ∃ entry, WritesField style level (k, v) entry :=
          ⟨_, key, text, hkey, htext, rfl⟩
        exact ⟨(k, v) :: before, k', u, after, rfl, List.forall_mem_cons.mpr ⟨hfirst, hbefore⟩,
          hk', hu⟩
      · cases h

theorem stopsAt_of_writeNamed (hstyle : style.fallback = .convert) {fault : WriteFault}
    (hfault : fault.IsForeign) :
    ∀ (fields : List (Text × Value)) (level : Nat),
      writeNamed style level fields = .error fault →
        ∃ before name v after, fields = before ++ (name, v) :: after
          ∧ (∀ e ∈ keyed before, ∃ entry, WritesField style level e entry)
          ∧ StopsAt style level v fault
  | [], _, h => by cases h
  | (name, v) :: rest, level, h => by
      rw [writeNamed] at h
      rcases bind_eq_error.mp h with h | ⟨text, htext, h⟩
      · exact ⟨[], name, v, rest, rfl, by simp [keyed], stopsAt_of_write hstyle hfault v level h⟩
      rcases bind_eq_error.mp h with h | ⟨texts, -, h⟩
      · obtain ⟨before, name', u, after, rfl, hbefore, hu⟩ :=
          stopsAt_of_writeNamed hstyle hfault rest level h
        have hfirst : ∃ entry, WritesField style level (.text name, v) entry :=
          ⟨_, name, text, rfl, htext, rfl⟩
        exact ⟨(name, v) :: before, name', u, after, rfl,
          List.forall_mem_cons.mpr ⟨hfirst, hbefore⟩, hu⟩
      · cases h

end

/-- **The writer stops for a reason that the codec does not know** exactly where it comes to a
decimal without a number or to a copy without end. -/
theorem write_eq_foreign_error (hstyle : style.fallback = .convert) {level : Nat} {v : Value} :
    write style level v = .error fault ∧ fault.IsForeign ↔ StopsAt style level v fault :=
  ⟨fun ⟨h, hfault⟩ => stopsAt_of_write hstyle hfault v level h,
    fun h => ⟨write_of_stopsAt hstyle h, h.isForeign⟩⟩

/-- A document has no UTF-8 form for that reason exactly if its text has none. -/
theorem encode_eq_foreign_error {v : Value} :
    encode v = .error fault ∧ fault.IsForeign ↔ StopsAt .compact 0 v fault := by
  rw [← write_eq_foreign_error rfl]
  refine and_congr_left fun hfault => ?_
  unfold encode
  constructor
  · intro h
    rcases bind_eq_error.mp h with h | ⟨text, -, h⟩
    · exact h
    · split at h
      · cases h
      · cases h
        cases hfault
  · intro h
    rw [h]
    rfl

end Json

end EventEnvelope
