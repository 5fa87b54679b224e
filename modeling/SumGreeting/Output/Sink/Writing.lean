import SumGreeting.Output.Sink

/-!
# What writing leaves in a sink

However a text is divided into pieces, however the pieces are divided into calls, and whether calls
are interrupted or not, a sink holds after the writing the longest beginning of the bytes that fits
into its limit, and the writing succeeds exactly if all of them fit.

## Main definitions

* `Sink.fitting` : the longest beginning of a sequence of bytes that fits.
* `Sink.refusal` : the fault of a writing that does not fit.
* `Sink.Effect` : what the writing of a sequence of bytes does to a sink.

## Main results

* `Sink.effect_writeAll`, `Sink.effect_writeEach` : writing in calls and in pieces has that effect.
* `Sink.Effect.append` : the effect of two writings in order is the one of a single writing.
* `Sink.held_deliver`, `Sink.flushes_deliver`, `Sink.fst_deliver` : what a delivery leaves in the
  sink, whether it makes its flush call, and what it answers.
-/

namespace SumGreeting.Sink

/-- The longest beginning of the bytes that fits into what is left of the limit. -/
def fitting (sink : Sink) (bytes : List UInt8) : List UInt8 :=
  match sink.device.limit with
  | none => bytes
  | some limit => bytes.take (limit - sink.held.length)

/-- The fault that ends the writing at the limit. -/
def refusal (sink : Sink) : IoFault :=
  if sink.device.stalls then .nothingAccepted else sink.device.fault

/-! ### One call -/

@[simp]
theorem fitting_nil (sink : Sink) : sink.fitting [] = [] := by
  rw [fitting]
  split <;> simp

/-- All of the bytes fit if the limit leaves room for their number. -/
theorem fitting_eq_self_iff {sink : Sink} {bytes : List UInt8} :
    sink.fitting bytes = bytes ↔
      ∀ limit, sink.device.limit = some limit → bytes.length ≤ limit - sink.held.length := by
  rw [fitting]
  cases sink.device.limit with
  | none => simp
  | some limit =>
    simp only [Option.some.injEq, forall_eq']
    constructor
    · intro h
      rw [← h, List.length_take]
      exact Nat.min_le_left _ _
    · exact List.take_of_length_le

theorem length_fitting_le (sink : Sink) (bytes : List UInt8) :
    (sink.fitting bytes).length ≤ bytes.length := by
  rw [fitting]
  split
  · exact Nat.le_refl _
  · rw [List.length_take]
    exact Nat.min_le_right _ _

/-- After as many bytes as fit, what comes next fits as far as it does in the sink with these. -/
theorem fitting_append {sink after : Sink} {bytes : List UInt8}
    (hdevice : after.device = sink.device) (hheld : after.held = sink.held ++ sink.fitting bytes)
    (rest : List UInt8) :
    sink.fitting (bytes ++ rest) = sink.fitting bytes ++ after.fitting rest := by
  unfold fitting at hheld ⊢
  rw [hdevice, hheld]
  cases hlimit : sink.device.limit with
  | none => rfl
  | some limit =>
    dsimp only
    rw [List.take_append, List.length_append, List.length_take]
    congr 2
    omega

/-- After bytes that do not fit, nothing else does. -/
theorem fitting_append_of_ne {sink : Sink} {bytes : List UInt8} (h : sink.fitting bytes ≠ bytes)
    (rest : List UInt8) : sink.fitting (bytes ++ rest) = sink.fitting bytes := by
  rw [ne_eq, fitting_eq_self_iff] at h
  unfold fitting
  cases hlimit : sink.device.limit with
  | none => exact absurd (by simp [hlimit]) h
  | some limit =>
    have hlen : limit - sink.held.length ≤ bytes.length := by
      simp only [hlimit, Option.some.injEq, forall_eq'] at h
      omega
    exact List.take_append_of_le_length hlen

theorem capacity_le (sink : Sink) (bytes : List UInt8) :
    sink.capacity bytes.length ≤ (sink.fitting bytes).length := by
  rw [capacity, fitting]
  cases sink.device.chunk <;> cases sink.device.limit <;> simp only [List.length_take] <;> omega

theorem capacity_eq_zero_iff (sink : Sink) (bytes : List UInt8) :
    sink.capacity bytes.length = 0 ↔ sink.fitting bytes = [] := by
  rw [← List.length_eq_zero_iff]
  rw [capacity, fitting]
  cases sink.device.chunk <;> cases sink.device.limit <;> simp only [List.length_take] <;> omega

theorem of_call_took {sink after : Sink} {bytes : List UInt8} {count : Nat}
    (h : sink.call bytes = (.took count, after)) :
    count = sink.capacity bytes.length ∧ (count = 0 → sink.device.stalls = true) ∧
      after = { sink with held := sink.held ++ bytes.take count, interruptNext := true } := by
  unfold call at h
  split at h
  · simp at h
  · dsimp only at h
    split at h
    · simp at h
    · rename_i hzero
      simp only [Prod.mk.injEq, Reply.took.injEq] at h
      obtain ⟨rfl, rfl⟩ := h
      exact ⟨rfl, fun h0 => by simpa [h0] using hzero, rfl⟩

theorem eq_of_call_interrupted {sink after : Sink} {bytes : List UInt8}
    (h : sink.call bytes = (.interrupted, after)) :
    after = { sink with interruptNext := false } := by
  unfold call at h
  split at h
  · simp only [Prod.mk.injEq, true_and] at h
    exact h.symm
  · dsimp only at h
    split at h <;> simp at h

theorem eq_of_call_failed {sink after : Sink} {bytes : List UInt8} {fault : FatalFault}
    (h : sink.call bytes = (.failed fault, after)) :
    after = { sink with interruptNext := true } ∧ fault = sink.device.fault ∧
      sink.fitting bytes = [] ∧ sink.device.stalls = false := by
  unfold call at h
  split at h
  · simp at h
  · dsimp only at h
    split at h
    · rename_i hzero
      simp only [Prod.mk.injEq, Reply.failed.injEq] at h
      simp only [Bool.and_eq_true, decide_eq_true_eq, Bool.not_eq_true'] at hzero
      exact ⟨h.2.symm, h.1.symm, (capacity_eq_zero_iff sink bytes).1 hzero.1, hzero.2⟩
    · simp at h

/-! ### Writing -/

/-- What a writing of the bytes does to a sink, however the bytes are divided into calls. -/
structure Effect (sink : Sink) (bytes : List UInt8) (outcome : Except IoFault Unit × Sink) :
    Prop where
  /-- The longest beginning that fits is added. -/
  held : outcome.2.held = sink.held ++ sink.fitting bytes
  /-- The device behaves as before. -/
  device : outcome.2.device = sink.device
  /-- There is no flush call. -/
  flushes : outcome.2.flushes = sink.flushes
  /-- The writing succeeds exactly if everything fits. -/
  result : outcome.1 = if sink.fitting bytes = bytes then .ok () else .error sink.refusal

namespace Effect

variable {sink middle : Sink} {bytes rest : List UInt8} {outcome : Except IoFault Unit × Sink}

theorem nil (sink : Sink) : Effect sink [] (.ok (), sink) where
  held := by rw [fitting_nil, List.append_nil]
  device := rfl
  flushes := rfl
  result := by rw [fitting_nil, if_pos rfl]

theorem fitting_eq (h : Effect sink bytes (.ok (), middle)) : sink.fitting bytes = bytes := by
  have hresult := h.result
  split at hresult
  · assumption
  · cases hresult

theorem fitting_ne {fault : IoFault} (h : Effect sink bytes (.error fault, middle)) :
    sink.fitting bytes ≠ bytes := by
  intro heq
  have hresult := h.result
  rw [if_pos heq] at hresult
  cases hresult

/-- A writing that succeeds is continued by the writing of what comes next. -/
theorem append (h : Effect sink bytes (.ok (), middle)) (hrest : Effect middle rest outcome) :
    Effect sink (bytes ++ rest) outcome := by
  have hfit := h.fitting_eq
  have hsplit : sink.fitting (bytes ++ rest) = bytes ++ middle.fitting rest := by
    rw [fitting_append h.device h.held, hfit]
  have hrefusal : middle.refusal = sink.refusal := by rw [refusal, refusal, h.device]
  refine ⟨?_, hrest.device.trans h.device, hrest.flushes.trans h.flushes, ?_⟩
  · rw [hrest.held, h.held, hfit, hsplit, List.append_assoc]
  · rw [hrest.result, hrefusal, hsplit]
    simp only [List.append_right_inj]

/-- A writing that fails is the writing of whatever would have come next as well. -/
theorem append_of_error {fault : IoFault} (h : Effect sink bytes (.error fault, middle))
    (rest : List UInt8) : Effect sink (bytes ++ rest) (.error fault, middle) := by
  have hfit : sink.fitting (bytes ++ rest) = sink.fitting bytes :=
    fitting_append_of_ne h.fitting_ne rest
  have hne : sink.fitting (bytes ++ rest) ≠ bytes ++ rest := by
    intro heq
    have hlen := length_fitting_le sink bytes
    rw [← hfit, heq, List.length_append] at hlen
    have hnil : rest = [] := List.length_eq_zero_iff.1 (by omega)
    rw [hnil, List.append_nil] at heq
    exact h.fitting_ne heq
  have hresult := h.result
  rw [if_neg h.fitting_ne] at hresult
  refine ⟨by rw [h.held, hfit], h.device, h.flushes, ?_⟩
  rw [if_neg hne, hresult]

end Effect

/-- The bytes that one call takes are written by it. -/
theorem effect_of_le_length_fitting {sink : Sink} {bytes : List UInt8} {count : Nat}
    (h : count ≤ (sink.fitting bytes).length) (interruptNext : Bool) :
    Effect sink (bytes.take count)
      (.ok (), { sink with held := sink.held ++ bytes.take count, interruptNext }) := by
  have hfit : sink.fitting (bytes.take count) = bytes.take count := by
    rw [fitting] at h ⊢
    cases hlimit : sink.device.limit with
    | none => rfl
    | some limit =>
      simp only [hlimit, List.length_take] at h ⊢
      rw [List.take_take, Nat.min_eq_right (by omega)]
  exact ⟨by rw [hfit], rfl, rfl, by rw [if_pos hfit]⟩

/-- Writing a whole sequence of bytes, by induction over the calls. -/
theorem effect_writeAll (sink : Sink) (bytes : List UInt8) :
    Effect sink bytes (sink.writeAll bytes) := by
  fun_induction writeAll sink bytes with
  | case1 sink => exact Effect.nil sink
  | case2 sink byte rest after h ih =>
    have hafter := eq_of_call_interrupted h
    subst hafter
    exact ⟨ih.held, ih.device, ih.flushes, ih.result⟩
  | case3 sink byte rest fault after h =>
    obtain ⟨rfl, rfl, hfit, hstalls⟩ := eq_of_call_failed h
    exact ⟨by simp [hfit], rfl, rfl, by simp [hfit, refusal, hstalls]⟩
  | case4 sink byte rest after h =>
    obtain ⟨hcount, hstalls, rfl⟩ := of_call_took h
    have hfit := (capacity_eq_zero_iff sink (byte :: rest)).1 hcount.symm
    exact ⟨by simp [hfit], rfl, rfl, by simp [hfit, refusal, hstalls rfl]⟩
  | case5 sink byte rest count after h ih =>
    obtain ⟨hcount, -, rfl⟩ := of_call_took h
    have hle : count + 1 ≤ (sink.fitting (byte :: rest)).length :=
      Nat.le_trans (Nat.le_of_eq hcount) (capacity_le sink (byte :: rest))
    have htook := effect_of_le_length_fitting hle true
    have h := htook.append ih
    rwa [List.take_succ_cons, List.cons_append, List.take_append_drop] at h

/-- Writing pieces has the effect of writing them as one sequence of bytes. -/
theorem effect_writeEach (sink : Sink) (pieces : List (List UInt8)) :
    Effect sink pieces.flatten (sink.writeEach pieces) := by
  fun_induction writeEach sink pieces with
  | case1 sink => exact Effect.nil sink
  | case2 sink piece rest fault after h =>
    exact (h ▸ effect_writeAll sink piece).append_of_error rest.flatten
  | case3 sink piece rest after h ih =>
    exact (h ▸ effect_writeAll sink piece : Effect sink piece (.ok (), after)).append ih

/-! ### Delivering -/

@[simp]
theorem held_flush (sink : Sink) : sink.flush.2.held = sink.held := by
  rw [flush]
  split <;> rfl

@[simp]
theorem device_flush (sink : Sink) : sink.flush.2.device = sink.device := by
  rw [flush]
  split <;> rfl

@[simp]
theorem flushes_flush (sink : Sink) : sink.flush.2.flushes = sink.flushes + 1 := by
  rw [flush]
  split <;> rfl

theorem fst_flush (sink : Sink) :
    sink.flush.1 = if sink.device.flushFails then .error sink.device.fault else .ok () := by
  rw [flush]
  split <;> rfl

section Deliver

variable (sink : Sink) (pieces : List String)

/-- What a delivery leaves in the sink. -/
theorem held_deliver :
    (sink.deliver pieces).2.held = sink.held ++ sink.fitting (pieces.flatMap Utf8.encode) := by
  have h := (effect_writeEach sink (pieces.map Utf8.encode)).held
  rw [← List.flatMap_def] at h
  rw [← h, deliver]
  split
  · rename_i heq
    rw [heq]
  · rename_i heq
    rw [heq, held_flush]

@[simp]
theorem device_deliver : (sink.deliver pieces).2.device = sink.device := by
  have h := (effect_writeEach sink (pieces.map Utf8.encode)).device
  rw [← h, deliver]
  split
  · rename_i heq
    rw [heq]
  · rename_i heq
    rw [heq, device_flush]

/-- The flush call is made exactly if the whole text was written. -/
theorem flushes_deliver :
    (sink.deliver pieces).2.flushes =
      sink.flushes + if sink.fitting (pieces.flatMap Utf8.encode) =
        pieces.flatMap Utf8.encode then 1 else 0 := by
  have h := effect_writeEach sink (pieces.map Utf8.encode)
  rw [← List.flatMap_def] at h
  rw [deliver]
  split
  · rename_i heq
    rw [heq] at h
    rw [if_neg h.fitting_ne, h.flushes, Nat.add_zero]
  · rename_i heq
    rw [heq] at h
    rw [if_pos h.fitting_eq, flushes_flush, h.flushes]

/-- A text that does not fit gives the refusal, and any other one what the flush call answers. -/
theorem fst_deliver :
    (sink.deliver pieces).1 =
      if sink.fitting (pieces.flatMap Utf8.encode) = pieces.flatMap Utf8.encode then
        if sink.device.flushFails then .error sink.device.fault else .ok ()
      else .error sink.refusal := by
  have h := effect_writeEach sink (pieces.map Utf8.encode)
  rw [← List.flatMap_def] at h
  rw [deliver]
  split
  · rename_i heq
    have hresult := h.result
    rw [heq] at h hresult
    rw [if_neg h.fitting_ne] at hresult ⊢
    exact hresult
  · rename_i heq
    rw [heq] at h
    rw [if_pos h.fitting_eq, fst_flush, h.device]

end Deliver

end SumGreeting.Sink
