import Mathlib.Data.List.SplitBy
import SumGreeting.Output.Sink.Writing
import SumGreeting.Proofs.Rejection

/-!
# Deliveries to one sink

Reports are delivered to a sink one after the other, on their own or at the end of a run.  Each is
written in many small pieces, of which the sink may take a part only, and a delivery that fails
does not keep the next one from being tried.  What the sink holds in the end depends on none of
this: it is the longest beginning of all renderings in order that fits into the limit of the sink.

## Main definitions

* `Delivery` : a report, or a run with the report that it makes.
* `Delivery.rendering?` : the bytes that a delivery is to write, if it is not turned down.
* `Delivery.perform`, `Delivery.performAll` : one delivery to a sink, and several in order.
* `Delivery.isWritten`, `Delivery.countWritten` : whether a delivery gets past its writing, and how
  many deliveries do.
* `Device.Fits`, `Device.IsLongestFitting` : what the limit of a device leaves room for.

## Main results

* `Report.flatMap_encode_pieces` : the pieces of a report make up its rendering.
* `Delivery.held_perform`, `Delivery.flushes_perform`, `Delivery.fst_perform` : what one delivery
  does to a sink.
* `Delivery.held_performAll`, `Delivery.flushes_performAll` : what several do.
* `Delivery.performAll_then_perform` : a delivery after any others to a new sink.
-/

namespace SumGreeting

/-! ### Pieces of a report -/

theorem Json.flatMap_encode_pieces (text : String) :
    (Json.pieces text).flatMap Utf8.encode = Utf8.encode (Json.quote text) := by
  have hrun (run : List Char) :
      Utf8.encode (String.ofList (run.flatMap Json.escape)) =
        (run.flatMap Json.escape).flatMap String.utf8EncodeChar := by
    rw [Utf8.encode, String.toList_ofList]
  have hruns (runs : List (List Char)) :
      (runs.map fun run => String.ofList (run.flatMap Json.escape)).flatMap Utf8.encode =
        (runs.flatten.flatMap Json.escape).flatMap String.utf8EncodeChar := by
    induction runs with
    | nil => rfl
    | cons run runs ih =>
      rw [List.map_cons, List.flatMap_cons, ih, hrun, List.flatten_cons, List.flatMap_append,
        List.flatMap_append]
  have hquote : Utf8.encode "\"" = String.utf8EncodeChar '"' := by
    simp [Utf8.encode]
  rw [Json.pieces, List.flatMap_cons, List.flatMap_append, hruns, List.flatten_splitBy,
    List.flatMap_singleton, hquote, Utf8.encode, Json.toList_quote, Json.encode,
    List.flatMap_cons, List.flatMap_append, List.flatMap_singleton]

/-- The pieces in which a report is written make up its rendering. -/
theorem Report.flatMap_encode_pieces (report : Report) (format : Format) :
    (report.pieces format).flatMap Utf8.encode = Utf8.encode (report.render format) := by
  cases format with
  | text => simp [Report.pieces, Report.textPieces, Report.render, Report.renderText]
  | json =>
    have hsum : Json.quote "sum" = "\"sum\"" := by decide
    have hgreeting : Json.quote "greeting" = "\"greeting\"" := by decide
    simp only [Report.pieces, Report.jsonPieces, Report.render, Report.renderJson,
      List.flatMap_cons, List.flatMap_append, List.flatMap_nil, Json.flatMap_encode_pieces,
      hsum, hgreeting, List.append_nil, ← Utf8.encode_append]
    exact congrArg Utf8.encode (String.toList_inj.1 (by simp))

/-- A rendering ends with a line break and so is not empty. -/
theorem Report.encode_render_ne_nil (report : Report) (format : Format) :
    Utf8.encode (report.render format) ≠ [] := by
  intro h
  have hempty := Utf8.encode_injective (h.trans Utf8.encode_empty.symm)
  have hlen := congrArg String.length hempty
  cases format <;> simp [Report.render, Report.renderText, Report.renderJson] at hlen

/-! ### One report -/

section Deliver

variable (report : Report) (format : Format) (sink : Sink)

theorem Report.snd_deliver :
    (report.deliver format sink).2 = (sink.deliver (report.pieces format)).2 := by
  rw [Report.deliver]
  split <;> rename_i heq <;> rw [heq]

/-- What the delivery of a report leaves in the sink. -/
theorem Report.held_deliver :
    (report.deliver format sink).2.held =
      sink.held ++ sink.fitting (Utf8.encode (report.render format)) := by
  rw [snd_deliver, Sink.held_deliver, flatMap_encode_pieces]

/-- How the delivery of a report ends. -/
theorem Report.fst_deliver :
    (report.deliver format sink).1 =
      if sink.fitting (Utf8.encode (report.render format)) = Utf8.encode (report.render format) then
        if sink.device.flushFails then .error (.output sink.device.fault) else .ok ()
      else .error (.output sink.refusal) := by
  have hmap : (report.deliver format sink).1 =
      (sink.deliver (report.pieces format)).1.mapError Failure.output := by
    rw [Report.deliver]
    split <;> rename_i heq <;> rw [heq] <;> rfl
  rw [hmap, Sink.fst_deliver, flatMap_encode_pieces]
  split_ifs <;> rfl

end Deliver

/-! ### What the limit leaves room for -/

namespace Device

/-- The limit leaves room for that many bytes in all. -/
def Fits (device : Device) (count : Nat) : Prop :=
  ∀ limit, device.limit = some limit → count ≤ limit

/-- Of all beginnings of the bytes that the limit leaves room for, `held` is the longest one. -/
structure IsLongestFitting (device : Device) (bytes held : List UInt8) : Prop where
  /-- It is a beginning of the bytes. -/
  beginning : held <+: bytes
  /-- The limit leaves room for it. -/
  fits : device.Fits held.length
  /-- Any other beginning that the limit leaves room for is a beginning of this one. -/
  longest : ∀ other, other <+: bytes → device.Fits other.length → other <+: held

/-- What fits into a sink that holds nothing is the longest beginning that the limit allows. -/
theorem isLongestFitting_fitting (sink : Sink) (h : sink.held = []) (bytes : List UInt8) :
    sink.device.IsLongestFitting bytes (sink.fitting bytes) := by
  rw [Sink.fitting]
  rw [h]
  cases hlimit : sink.device.limit with
  | none =>
    refine ⟨List.prefix_rfl, ?_, fun other hother _ => hother⟩
    intro limit hsome
    rw [hlimit] at hsome
    cases hsome
  | some limit =>
    refine ⟨List.take_prefix _ _, ?_, ?_⟩
    · intro limit' hsome
      obtain rfl : limit = limit' := Option.some.inj (hlimit.symm.trans hsome)
      rw [List.length_take]
      exact Nat.min_le_left _ _
    · intro other hother hfits
      exact List.prefix_take_iff.2 ⟨hother, hfits limit hlimit⟩

end Device

/-! ### Deliveries -/

/-- Something that delivers a report to a sink. -/
inductive Delivery where
  /-- A report on its own. -/
  | single (report : Report) (format : Format)
  /-- A run, with the report that it makes. -/
  | run (settings : Settings)

namespace Delivery

/-- The report that is to be delivered, and its format.  A run with rejected settings has none. -/
def content? : Delivery → Option (Report × Format)
  | single report format => some (report, format)
  | run settings =>
    if settings.rejection? = none then some (settings.report, settings.format) else none

/-- The bytes that are to be written: the full rendering of the report. -/
def rendering? (delivery : Delivery) : Option (List UInt8) :=
  delivery.content?.map fun content => Utf8.encode (content.1.render content.2)

/-- One delivery to a sink, with what it answers. -/
def perform (delivery : Delivery) (sink : Sink) : Except Failure Unit × Sink :=
  match delivery with
  | single report format => report.deliver format sink
  | run settings => ((settings.run sink).result.map fun _ => (), (settings.run sink).sink)

/-- The sink after some deliveries in order. -/
def performAll (sink : Sink) (deliveries : List Delivery) : Sink :=
  deliveries.foldl (fun sink delivery => (delivery.perform sink).2) sink

/-- Whether the delivery gets past its writing, so that only the flush call is left. -/
def isWritten (delivery : Delivery) (sink : Sink) : Bool :=
  match delivery.content? with
  | none => false
  | some (report, format) => (sink.writeEach ((report.pieces format).map Utf8.encode)).1.isOk

/-- How many of the deliveries in order get past their writing. -/
def countWritten (sink : Sink) : List Delivery → Nat
  | [] => 0
  | delivery :: rest =>
    (delivery.isWritten sink).toNat + countWritten (delivery.perform sink).2 rest

/-! ### One delivery -/

variable {delivery : Delivery} {sink : Sink}

/-- A delivery that is turned down writes nothing, and the sink is not the reason. -/
theorem perform_of_rendering?_eq_none (h : delivery.rendering? = none) (sink : Sink) :
    ∃ failure, delivery.perform sink = (.error failure, sink) ∧
      ∀ fault, failure ≠ .output fault := by
  cases delivery with
  | single report format => cases h
  | run settings =>
    cases hrejection : settings.rejection? with
    | none => simp [rendering?, content?, hrejection] at h
    | some failure =>
      refine ⟨failure, ?_, ?_⟩
      · obtain ⟨hresult, hsink⟩ := Settings.run_of_rejection?_eq_some hrejection sink
        rw [perform, hresult, hsink]
        rfl
      · rintro fault rfl
        exact settings.rejection?_ne_output fault hrejection

theorem isWritten_of_rendering?_eq_none (h : delivery.rendering? = none) (sink : Sink) :
    delivery.isWritten sink = false := by
  have hcontent : delivery.content? = none := Option.map_eq_none_iff.1 h
  rw [isWritten, hcontent]

/-- Any other delivery is the one of a report. -/
theorem exists_of_rendering?_eq_some {bytes : List UInt8}
    (h : delivery.rendering? = some bytes) (sink : Sink) :
    ∃ report format, bytes = Utf8.encode (report.render format) ∧
      delivery.content? = some (report, format) ∧
      delivery.perform sink = report.deliver format sink := by
  obtain ⟨⟨report, format⟩, hcontent, rfl⟩ := Option.map_eq_some_iff.1 h
  refine ⟨report, format, rfl, hcontent, ?_⟩
  cases delivery with
  | single => cases hcontent; rfl
  | run settings =>
    simp only [content?] at hcontent
    split_ifs at hcontent with hrejection
    cases hcontent
    rw [perform, Settings.result_run, Settings.sink_run, hrejection]
    rcases settings.report.deliver settings.format sink with ⟨_ | _, after⟩ <;> rfl

@[simp] theorem device_perform (delivery : Delivery) (sink : Sink) :
    (delivery.perform sink).2.device = sink.device := by
  cases h : delivery.rendering? with
  | none =>
    obtain ⟨failure, hperform, -⟩ := perform_of_rendering?_eq_none h sink
    rw [hperform]
  | some bytes =>
    obtain ⟨report, format, -, -, hperform⟩ := exists_of_rendering?_eq_some h sink
    rw [hperform, Report.snd_deliver, Sink.device_deliver]

/-- A delivery adds as much of its rendering as fits. -/
theorem held_perform (delivery : Delivery) (sink : Sink) :
    (delivery.perform sink).2.held =
      sink.held ++ sink.fitting (delivery.rendering?.getD []) := by
  cases h : delivery.rendering? with
  | none =>
    obtain ⟨failure, hperform, -⟩ := perform_of_rendering?_eq_none h sink
    rw [hperform, Option.getD_none, Sink.fitting_nil, List.append_nil]
  | some bytes =>
    obtain ⟨report, format, rfl, -, hperform⟩ := exists_of_rendering?_eq_some h sink
    rw [hperform, Report.held_deliver, Option.getD_some]

/-- A delivery gets past its writing exactly if all of its rendering fits. -/
theorem isWritten_iff {bytes : List UInt8} (h : delivery.rendering? = some bytes) :
    delivery.isWritten sink = true ↔ sink.fitting bytes = bytes := by
  obtain ⟨report, format, rfl, hcontent, -⟩ := exists_of_rendering?_eq_some h sink
  have heffect := Sink.effect_writeEach sink ((report.pieces format).map Utf8.encode)
  rw [← List.flatMap_def, Report.flatMap_encode_pieces] at heffect
  simp only [isWritten, hcontent, heffect.result]
  split_ifs with hfit <;> simp [hfit, Except.isOk, Except.toBool]

/-- The flush call is made exactly by the deliveries that get past their writing. -/
theorem flushes_perform (delivery : Delivery) (sink : Sink) :
    (delivery.perform sink).2.flushes = sink.flushes + (delivery.isWritten sink).toNat := by
  cases h : delivery.rendering? with
  | none =>
    obtain ⟨failure, hperform, -⟩ := perform_of_rendering?_eq_none h sink
    rw [hperform, isWritten_of_rendering?_eq_none h]
    rfl
  | some bytes =>
    obtain ⟨report, format, hbytes, -, hperform⟩ := exists_of_rendering?_eq_some h sink
    rw [hperform, Report.snd_deliver, Sink.flushes_deliver, Report.flatMap_encode_pieces,
      ← hbytes]
    by_cases hfit : sink.fitting bytes = bytes
    · rw [if_pos hfit, (isWritten_iff h).2 hfit]
      rfl
    · rw [if_neg hfit, Bool.eq_false_iff.2 fun hwritten => hfit ((isWritten_iff h).1 hwritten)]
      rfl

/-- How a delivery ends that is not turned down. -/
theorem fst_perform {bytes : List UInt8} (h : delivery.rendering? = some bytes) :
    (delivery.perform sink).1 =
      if delivery.isWritten sink = true then
        if sink.device.flushFails then .error (.output sink.device.fault) else .ok ()
      else .error (.output sink.refusal) := by
  obtain ⟨report, format, hbytes, -, hperform⟩ := exists_of_rendering?_eq_some h sink
  rw [hperform, Report.fst_deliver, ← hbytes]
  simp only [isWritten_iff h]

/-! ### Several deliveries -/

theorem performAll_cons (sink : Sink) (delivery : Delivery) (rest : List Delivery) :
    performAll sink (delivery :: rest) = performAll (delivery.perform sink).2 rest :=
  rfl

@[simp] theorem device_performAll (sink : Sink) (deliveries : List Delivery) :
    (performAll sink deliveries).device = sink.device := by
  induction deliveries generalizing sink with
  | nil => rfl
  | cons delivery rest ih => rw [performAll_cons, ih, device_perform]

theorem flatten_filterMap_rendering?_cons (delivery : Delivery) (rest : List Delivery) :
    ((delivery :: rest).filterMap rendering?).flatten =
      delivery.rendering?.getD [] ++ (rest.filterMap rendering?).flatten := by
  rw [List.filterMap_cons]
  cases delivery.rendering? <;> rfl

/-- Several deliveries add as much of all renderings in order as fits, also where some of them
fail. -/
theorem held_performAll (sink : Sink) (deliveries : List Delivery) :
    (performAll sink deliveries).held =
      sink.held ++ sink.fitting (deliveries.filterMap rendering?).flatten := by
  -- A delivery that did not fit leaves no room, so that nothing is added by the ones after it.
  induction deliveries generalizing sink with
  | nil => rw [List.filterMap_nil, List.flatten_nil, Sink.fitting_nil, List.append_nil]; rfl
  | cons delivery rest ih =>
    rw [performAll_cons, ih, held_perform, flatten_filterMap_rendering?_cons,
      Sink.fitting_append (device_perform delivery sink) (held_perform delivery sink),
      List.append_assoc]

/-- There are as many flush calls as deliveries that get past their writing. -/
theorem flushes_performAll (sink : Sink) (deliveries : List Delivery) :
    (performAll sink deliveries).flushes = sink.flushes + countWritten sink deliveries := by
  induction deliveries generalizing sink with
  | nil => rfl
  | cons delivery rest ih =>
    rw [performAll_cons, ih, flushes_perform, countWritten, Nat.add_assoc]

/-- After some deliveries to a sink that held nothing, another one is written exactly if the limit
leaves room for all renderings up to its own. -/
theorem isWritten_performAll_iff {bytes : List UInt8} (h : delivery.rendering? = some bytes)
    (hheld : sink.held = []) (deliveries : List Delivery) :
    delivery.isWritten (performAll sink deliveries) = true ↔
      sink.device.Fits (deliveries.filterMap rendering? ++ [bytes]).flatten.length := by
  have hpos : 0 < bytes.length := by
    obtain ⟨report, format, rfl, -, -⟩ := exists_of_rendering?_eq_some h sink
    exact List.length_pos_iff.2 (report.encode_render_ne_nil format)
  rw [isWritten_iff h, Sink.fitting_eq_self_iff, device_performAll, held_performAll, hheld,
    List.nil_append, List.flatten_append, List.length_append, List.flatten_singleton]
  rw [Device.Fits, Sink.fitting]
  refine forall_congr' fun limit => forall_congr' fun hlimit => ?_
  rw [hlimit, hheld, List.length_take, List.length_nil]
  omega

/-- **Any sequence of deliveries to one sink.** The sink is new; whether its first call is the one
of two that an interrupting device interrupts is left open.  After any deliveries it holds the
longest beginning of their renderings that fits, and has seen a flush call for each one that got
past its writing.  Another delivery either is turned down, which leaves the sink as it was, or gets
past its writing exactly if all renderings up to its own fit; it then ends as its flush call does,
and otherwise with the fault of the device, or the one of a device that takes no byte. -/
theorem performAll_then_perform (device : Device) (interruptNext : Bool)
    (deliveries : List Delivery) (next : Delivery) :
    let start : Sink := { device, interruptNext }
    let sink := performAll start deliveries
    let renderings := deliveries.filterMap rendering?
    device.IsLongestFitting renderings.flatten sink.held ∧
      sink.flushes = countWritten start deliveries ∧
      match next.rendering? with
      | none => ∃ failure, next.perform sink = (.error failure, sink) ∧
          ∀ fault, failure ≠ .output fault
      | some rendering =>
        (next.isWritten sink = true ↔ device.Fits (renderings ++ [rendering]).flatten.length) ∧
          (next.perform sink).1 =
            if next.isWritten sink = true then
              if device.flushFails then .error (.output device.fault) else .ok ()
            else if device.stalls then
              .error (.output ⟨.writeZero, "failed to write whole buffer"⟩)
            else .error (.output device.fault) := by
  intro start sink renderings
  refine ⟨?_, ?_, ?_⟩
  · have hheld : sink.held = start.fitting renderings.flatten := held_performAll start deliveries
    rw [hheld]
    exact Device.isLongestFitting_fitting start rfl renderings.flatten
  · rw [flushes_performAll]
    exact Nat.zero_add _
  · cases h : next.rendering? with
    | none => exact perform_of_rendering?_eq_none h sink
    | some rendering =>
      have hdevice : sink.device = device := device_performAll start deliveries
      refine ⟨isWritten_performAll_iff h rfl deliveries, ?_⟩
      rw [fst_perform h, Sink.refusal, hdevice]
      split_ifs <;> rfl

end Delivery

end SumGreeting
