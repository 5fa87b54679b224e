import Mathlib.Data.Int.Cast.Lemmas
import Mathlib.Data.List.Forall2
import SumGreeting.Proofs.Delivery
import SumGreeting.Proofs.Json.Unambiguous
import SumGreeting.Proofs.Json.Writing
import SumGreeting.Proofs.Lines

/-!
# Reports in JSON can be read back

A sink without a limit to which reports are delivered in JSON holds one line for each of them.  By
the grammar of JSON, a line denotes an object with the sum and the greeting of its report and
nothing else.  The bytes so determine the reports.

## Main results

* `Report.denotes_object_iff` : the object of a report denotes nothing but its contents.
* `Delivery.held_performAll_json`, `Delivery.splitOn_held_performAll_json` : what a sink without a
  limit holds in addition, and the lines of it.
* `Delivery.json_lines_denote_reports` : the lines of a stream, and what they denote.
-/

namespace SumGreeting

namespace Report

/-- What the object of a report denotes. -/
theorem denotes_object_iff {report : Report} {value : Json.Value} :
    Json.Denotes report.object value ↔ value = .object
      [("sum", .number report.sum.toInt), ("greeting", .string report.greeting)] := by
  constructor
  · exact fun h => h.unique report.denotes_object
  · rintro rfl
    exact report.denotes_object

/-- Reports with equal objects are equal: these denote the same. -/
theorem object_injective : Function.Injective object := by
  intro report other heq
  have hvalue := denotes_object_iff.1 (heq ▸ report.denotes_object)
  simp only [Json.Value.object.injEq, List.cons.injEq, Prod.mk.injEq, Json.Value.number.injEq,
    Json.Value.string.injEq, true_and, and_true, Int.cast_inj, Int32.toInt_inj] at hvalue
  obtain ⟨sum, greeting⟩ := report
  obtain ⟨rfl, rfl⟩ := hvalue
  rfl

end Report

namespace Delivery

/-- A sink without a limit takes all the objects, each with a line break after it. -/
theorem held_performAll_json {sink : Sink} (h : sink.device.limit = none) (reports : List Report) :
    (performAll sink (reports.map (single · .json))).held =
      sink.held ++ reports.flatMap fun report => Utf8.encode (report.object ++ "\n") := by
  have hrenderings : ((reports.map (single · .json)).filterMap rendering?) =
      reports.map fun report => Utf8.encode (report.object ++ "\n") := by
    rw [List.filterMap_map, ← List.filterMap_eq_map]
    refine congrArg (List.filterMap · reports) (funext fun report => ?_)
    show some (Utf8.encode report.renderJson) = some (Utf8.encode (report.object ++ "\n"))
    rw [Report.renderJson_eq]
  rw [held_performAll, hrenderings, Sink.fitting, h, List.flatMap_def]

/-- At a new sink, one line for each report. -/
theorem splitOn_held_performAll_json {sink : Sink} (h : sink.device.limit = none)
    (hheld : sink.held = []) (reports : List Report) :
    (performAll sink (reports.map (single · .json))).held.splitOn 0x0a =
      (reports.map Report.object).map Utf8.encode ++ [[]] := by
  have hbreak : ∀ line ∈ reports.map Report.object, '\n' ∉ line.toList := by
    rw [List.forall_mem_map]
    intro report _ hmem
    exact absurd (report.noControl_object _ hmem) (by decide)
  rw [held_performAll_json h, hheld, List.nil_append, ← Utf8.splitOn_flatMap_encode hbreak,
    List.flatMap_map]

/-- **Reports in JSON can be read back.** Whatever reports are delivered to a new sink without a
limit, a line break ends each line of what it holds, and there is one line for each report, in
order.  No line contains a control character below the space, and each one denotes an object with
the sum and the greeting of its report, in this order, and nothing else.  Different sequences of
reports give different bytes. -/
theorem json_lines_denote_reports (device : Device) (interruptNext : Bool) :
    let start : Sink := { device := { device with limit := none }, interruptNext }
    let written (reports : List Report) := (performAll start (reports.map (single · .json))).held
    (∀ reports, ∃ lines : List String,
      (written reports).splitOn 0x0a = lines.map Utf8.encode ++ [[]] ∧
        List.Forall₂ (fun line report => (∀ c ∈ line.toList, 0x20 ≤ c.toNat) ∧
          ∀ value, Json.Denotes line value ↔ value = .object
            [("sum", .number report.sum.toInt), ("greeting", .string report.greeting)])
          lines reports) ∧
      Function.Injective written := by
  intro start written
  have hwritten (reports : List Report) : (written reports).splitOn 0x0a =
      (reports.map Report.object).map Utf8.encode ++ [[]] :=
    splitOn_held_performAll_json rfl rfl reports
  refine ⟨fun reports => ⟨reports.map Report.object, hwritten reports, ?_⟩, ?_⟩
  · rw [List.forall₂_map_left_iff, List.forall₂_same]
    exact fun report _ => ⟨report.noControl_object, fun _ => Report.denotes_object_iff⟩
  · intro reports others heq
    have hobjects : (reports.map Report.object).map Utf8.encode =
        (others.map Report.object).map Utf8.encode := by
      rw [← List.append_left_inj [[]], ← hwritten, ← hwritten, heq]
    rw [List.map_map, List.map_map] at hobjects
    exact List.map_injective_iff.2 (fun _ _ h => Report.object_injective (Utf8.encode_injective h))
      hobjects

end Delivery

end SumGreeting
