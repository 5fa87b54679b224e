import SumGreeting.Proofs.Fields
import SumGreeting.Proofs.Json.Stream
import SumGreeting.Proofs.Trace.Records

/-!
# Reports in text can be read back

A report in text is a line with the sum, and the greeting after it.  The greeting is free to have
more lines, also ones that look like the line with a sum, and yet the report can be read off the
bytes: the first line break ends the sum, and the last one the greeting.  No report in text looks
like one in JSON.  A strict run is stricter than that: what it writes in text has two lines, and
no control character besides the line breaks that end them.

## Main definitions

* `Delivery.Writes` : the whole output of a delivery.
* `Utf8.IsTwoLines` : bytes that are two given lines.

## Main results

* `Report.render_inj` : a rendering determines the report and its format.
* `Delivery.writes_iff`, `Delivery.content?_eq_of_writes` : what the output of a delivery is, and
  that it determines what was delivered.
* `Settings.isTwoLines_of_strict` : what a strict run writes in text.
* `Delivery.lines_identify_report` : reports in text and runs are identified by their output.
-/

namespace SumGreeting

/-! ### Lines of bytes -/

namespace Utf8

/-- The bytes are two lines, each with a line break after it, and have no other control
character. -/
structure IsTwoLines (bytes : List UInt8) (first second : String) : Prop where
  /-- Between the line breaks there are the two lines. -/
  splitOn : bytes.splitOn 0x0a = [encode first, encode second, []]
  /-- There are two line breaks. -/
  count : bytes.count 0x0a = 2
  /-- The bytes are a text whose only control characters are line breaks. -/
  control : ∃ text, bytes = encode text ∧ ∀ c ∈ text.toList, isControl c = true → c = '\n'

theorem ne_newline_of_mem_encode {line : String} (h : IsOneLine line) :
    ∀ byte ∈ encode line, decide (byte ≠ 0x0a) = true :=
  fun _ hbyte => decide_eq_true fun heq => newline_notMem_encode h (heq ▸ hbyte)

/-- The bytes of a line stand before the first line break. -/
theorem takeWhile_encode_append {line : String} (h : IsOneLine line) (rest : List UInt8) :
    (encode line ++ 0x0a :: rest).takeWhile (· ≠ 0x0a) = encode line := by
  rw [List.takeWhile_append_of_pos (ne_newline_of_mem_encode h),
    List.takeWhile_cons_of_neg (by decide), List.append_nil]

/-- What stands after the bytes of a line. -/
theorem dropWhile_encode_append {line : String} (h : IsOneLine line) (rest : List UInt8) :
    (encode line ++ 0x0a :: rest).dropWhile (· ≠ 0x0a) = 0x0a :: rest := by
  rw [List.dropWhile_append_of_pos (ne_newline_of_mem_encode h),
    List.dropWhile_cons_of_neg (by decide)]

theorem encode_two_lines (first second : String) :
    encode (first ++ "\n" ++ second ++ "\n") =
      encode first ++ 0x0a :: (encode second ++ [0x0a]) := by
  simp only [encode_append, encode_newline, List.append_assoc, List.cons_append, List.nil_append]

/-- Two texts without control characters, each with a line break after it. -/
theorem isTwoLines_encode {first second : String} (hfirst : IsOneLine first)
    (hsecond : IsOneLine second) :
    IsTwoLines (encode (first ++ "\n" ++ second ++ "\n")) first second := by
  refine ⟨?_, ?_, _, rfl, fun c hc hcontrol => ?_⟩
  · rw [encode_two_lines, List.splitOn_append_cons_self_of_not_mem (newline_notMem_encode hfirst),
      List.splitOn_append_cons_self_of_not_mem (newline_notMem_encode hsecond), List.splitOn_nil]
  · rw [encode_two_lines, List.count_append, List.count_cons_self, List.count_append,
      List.count_singleton_self, List.count_eq_zero.2 (newline_notMem_encode hfirst),
      List.count_eq_zero.2 (newline_notMem_encode hsecond)]
  · simp only [String.toList_append, List.mem_append] at hc
    rcases hc with ((hc | hc) | hc) | hc
    · exact absurd (hfirst c hc) (by simp [hcontrol])
    · simpa using hc
    · exact absurd (hsecond c hc) (by simp [hcontrol])
    · simpa using hc

end Utf8

/-! ### Renderings -/

namespace Report

/-- The line with the sum of a report in text. -/
def sumLine (report : Report) : String :=
  "Sum: " ++ report.sum.toInt.repr

theorem isOneLine_sumLine (report : Report) : IsOneLine report.sumLine := by
  unfold sumLine
  rw [isOneLine_append_iff]
  exact ⟨by decide, isOneLine_repr _⟩

theorem renderText_eq (report : Report) :
    report.renderText = report.sumLine ++ "\n" ++ report.greeting ++ "\n" :=
  rfl

theorem renderText_injective : Function.Injective renderText := by
  intro report other h
  unfold renderText at h
  simp only [String.append_assoc, String.append_right_inj] at h
  obtain ⟨hsum, hrest⟩ := delimits_repr (by decide) h
  have hgreeting := (String.append_left_inj _).1 hrest
  obtain ⟨sum, greeting⟩ := report
  obtain ⟨sum', greeting'⟩ := other
  cases Int32.toInt_inj.1 hsum
  cases hgreeting
  rfl

theorem renderJson_injective : Function.Injective renderJson := by
  intro report other h
  rw [renderJson_eq, renderJson_eq] at h
  exact object_injective ((String.append_left_inj _).1 h)

/-- A report in text begins with a letter and one in JSON with a brace. -/
theorem renderText_ne_renderJson (report other : Report) :
    report.renderText ≠ other.renderJson := by
  intro h
  have hhead := congrArg (fun text => text.toList.head?) h
  unfold renderText renderJson at hhead
  simp [sumLabel] at hhead

/-- A rendering determines the report and its format. -/
theorem render_inj {report other : Report} {format format' : Format}
    (h : report.render format = other.render format') : report = other ∧ format = format' := by
  cases format with
  | text =>
    cases format' with
    | text => exact ⟨renderText_injective h, rfl⟩
    | json => exact absurd h (renderText_ne_renderJson report other)
  | json =>
    cases format' with
    | text => exact absurd h.symm (renderText_ne_renderJson other report)
    | json => exact ⟨renderJson_injective h, rfl⟩

end Report

/-! ### Complete outputs -/

namespace Delivery

/-- The delivery gets past its writing, and the sink then holds the bytes in addition. -/
def Writes (delivery : Delivery) (sink : Sink) (bytes : List UInt8) : Prop :=
  delivery.isWritten sink = true ∧ (delivery.perform sink).2.held = sink.held ++ bytes

variable {delivery other : Delivery} {sink sink' : Sink} {bytes : List UInt8}

/-- The complete output of a delivery is its rendering, where the sink has room for it. -/
theorem writes_iff :
    delivery.Writes sink bytes ↔ delivery.rendering? = some bytes ∧ sink.fitting bytes = bytes := by
  constructor
  · rintro ⟨hwritten, hheld⟩
    cases hrendering : delivery.rendering? with
    | none =>
      rw [isWritten_of_rendering?_eq_none hrendering] at hwritten
      cases hwritten
    | some rendering =>
      have hfits := (isWritten_iff hrendering).1 hwritten
      rw [held_perform, hrendering, Option.getD_some, hfits] at hheld
      cases List.append_cancel_left hheld
      exact ⟨rfl, hfits⟩
  · rintro ⟨hrendering, hfits⟩
    refine ⟨(isWritten_iff hrendering).2 hfits, ?_⟩
    rw [held_perform, hrendering, Option.getD_some, hfits]

/-- A sink without a limit gets the complete output of a report. -/
theorem exists_writes_single (h : sink.device.limit = none) (report : Report) (format : Format) :
    ∃ written, (single report format).Writes sink written := by
  refine ⟨Utf8.encode (report.render format), writes_iff.2 ⟨rfl, ?_⟩⟩
  rw [Sink.fitting, h]

/-- The report that an output is of, and its format. -/
theorem exists_of_writes (h : delivery.Writes sink bytes) :
    ∃ report format, delivery.content? = some (report, format) ∧
      bytes = Utf8.encode (report.render format) := by
  obtain ⟨⟨report, format⟩, hcontent, hbytes⟩ := Option.map_eq_some_iff.1 (writes_iff.1 h).1
  exact ⟨report, format, hcontent, hbytes.symm⟩

/-- The output of a delivery determines what was delivered. -/
theorem content?_eq_of_writes (h : delivery.Writes sink bytes) (hother : other.Writes sink' bytes) :
    delivery.content? = other.content? := by
  obtain ⟨report, format, hcontent, hbytes⟩ := exists_of_writes h
  obtain ⟨report', format', hcontent', hbytes'⟩ := exists_of_writes hother
  obtain ⟨rfl, rfl⟩ := Report.render_inj (Utf8.encode_injective (hbytes.symm.trans hbytes'))
  rw [hcontent, hcontent']

/-- The output of a report in text. -/
theorem writes_single_text {report : Report} (h : (single report .text).Writes sink bytes) :
    bytes = Utf8.encode report.sumLine ++ 0x0a :: (Utf8.encode report.greeting ++ [0x0a]) := by
  have hrendering := (writes_iff.1 h).1
  rw [← Option.some.inj hrendering, ← Utf8.encode_two_lines, ← Report.renderText_eq]
  rfl

/-- The report of a run with an output. -/
theorem content?_run_of_writes {settings : Settings} (h : (run settings).Writes sink bytes) :
    (run settings).content? = some (settings.report, settings.format) ∧
      settings.sum = .ok settings.report.sum := by
  obtain ⟨report, format, hcontent, -⟩ := exists_of_writes h
  have hrejection : settings.rejection? = none := by
    by_contra hsome
    rw [content?, if_neg hsome] at hcontent
    cases hcontent
  refine ⟨if_pos hrejection, ?_⟩
  rw [Settings.sum_eq, if_neg]
  intro hover
  rw [Settings.rejection?_of_overflows hover] at hrejection
  cases hrejection

end Delivery

/-! ### Strict runs -/

namespace Settings

variable {settings : Settings}

/-- A strict run that is not turned down has a name without control characters. -/
theorem isOneLine_name_of_strict (hstrict : settings.strict = true) (h : ¬ settings.Rejected) :
    IsOneLine settings.name := by
  intro c hc
  by_contra hcontrol
  have hany : settings.name.toList.any isControl = true :=
    List.any_eq_true.2 ⟨c, hc, Bool.not_eq_false _ ▸ hcontrol⟩
  exact h ⟨hstrict, Or.inr (Or.inr ((any_isControl_iff settings).1 hany))⟩

theorem isOneLine_greeting_of_strict (hstrict : settings.strict = true)
    (h : ¬ settings.Rejected) : IsOneLine ("Hello, " ++ settings.name ++ "!") := by
  rw [isOneLine_append_iff, isOneLine_append_iff]
  exact ⟨⟨by decide, isOneLine_name_of_strict hstrict h⟩, by decide⟩

theorem not_rejected_of_result_eq_ok {sink : Sink} {report : Report}
    (h : (settings.run sink).result = .ok report) : ¬ settings.Rejected := by
  have hstage : 3 ≤ Run.stage (settings.run sink).result := by
    rw [h]
    exact Nat.le_succ 3
  exact rejection?_eq_none_iff.1 (rejection?_eq_none_of_three_le_stage hstage)

/-- The greeting tells the name. -/
theorem name_eq_of_report_eq {other : Settings} (h : settings.report = other.report) :
    settings.name = other.name := by
  have hgreeting := congrArg Report.greeting h
  unfold report at hgreeting
  rw [greet_eq, greet_eq, String.append_left_inj, String.append_right_inj] at hgreeting
  exact hgreeting

/-- The report of a strict run in text is the line with the sum of the operands and the line with
the greeting. -/
theorem isTwoLines_of_strict (hstrict : settings.strict = true) (h : ¬ settings.Rejected) :
    Utf8.IsTwoLines (Utf8.encode settings.report.renderText)
      ("Sum: " ++ (settings.first.toInt + settings.second.toInt).repr)
      ("Hello, " ++ settings.name ++ "!") := by
  have hsum : settings.report.sum.toInt = settings.first.toInt + settings.second.toInt :=
    toInt_sum_report fun hover => h ⟨hstrict, Or.inl hover⟩
  have hgreeting : settings.report.greeting = "Hello, " ++ settings.name ++ "!" :=
    greet_eq settings.name
  have hline := settings.report.isOneLine_sumLine
  have hlines := Utf8.isTwoLines_encode hline (isOneLine_greeting_of_strict hstrict h)
  rw [← hgreeting, ← Report.renderText_eq, Report.sumLine, hsum, hgreeting] at hlines
  exact hlines

/-- What a strict run that succeeds in text adds to its sink. -/
theorem exists_isTwoLines_of_result_eq_ok {sink : Sink} {report : Report}
    (hstrict : settings.strict = true) (htext : settings.format = .text)
    (h : (settings.run sink).result = .ok report) :
    ∃ written, (settings.run sink).sink.held = sink.held ++ written ∧
      Utf8.IsTwoLines written
        ("Sum: " ++ (settings.first.toInt + settings.second.toInt).repr)
        ("Hello, " ++ settings.name ++ "!") := by
  obtain ⟨-, hdelivered⟩ := isDelivered_of_result_eq_ok h
  refine ⟨_, hdelivered.held, ?_⟩
  rw [htext]
  exact isTwoLines_of_strict hstrict (not_rejected_of_result_eq_ok h)

end Settings

namespace Delivery

/-- **The output identifies the report.** A report in text can be delivered to any sink without a
limit.  Wherever it is delivered as a whole, the part of its output before the first line break is
the line with the sum, and the part after it is the greeting and one line break.  Two reports with
the same output are the same report in the same format, so that no output in text is one in JSON;
and two runs with the same output have the same format, the same sum and the same name.  What a
strict run adds in text when it succeeds are two lines, the exact sum and the greeting, without any
control character but the two line breaks. -/
theorem lines_identify_report :
    (∀ (report : Report) (sink : Sink), sink.device.limit = none →
      ∃ written, (single report .text).Writes sink written) ∧
    (∀ (report : Report) (sink : Sink) (written : List UInt8),
      (single report .text).Writes sink written →
        written.takeWhile (· ≠ 0x0a) = Utf8.encode ("Sum: " ++ report.sum.toInt.repr) ∧
        written.dropWhile (· ≠ 0x0a) = 0x0a :: (Utf8.encode report.greeting ++ [0x0a])) ∧
    (∀ (report other : Report) (format format' : Format) (sink sink' : Sink)
      (written : List UInt8), (single report format).Writes sink written →
        (single other format').Writes sink' written → report = other ∧ format = format') ∧
    (∀ (settings other : Settings) (sink sink' : Sink) (written : List UInt8),
      (run settings).Writes sink written → (run other).Writes sink' written →
        settings.format = other.format ∧
        (∃ sum, settings.sum = .ok sum ∧ other.sum = .ok sum) ∧ settings.name = other.name) ∧
    ∀ (settings : Settings) (sink : Sink) (report : Report), settings.strict = true →
      settings.format = .text → (settings.run sink).result = .ok report →
        ∃ written, (settings.run sink).sink.held = sink.held ++ written ∧
          Utf8.IsTwoLines written
            ("Sum: " ++ (settings.first.toInt + settings.second.toInt).repr)
            ("Hello, " ++ settings.name ++ "!") := by
  refine ⟨fun report sink h => exists_writes_single h report .text, ?_, ?_, ?_, ?_⟩
  · intro report sink written h
    rw [writes_single_text h]
    exact ⟨Utf8.takeWhile_encode_append report.isOneLine_sumLine _,
      Utf8.dropWhile_encode_append report.isOneLine_sumLine _⟩
  · intro report other format format' sink sink' written h hother
    have hcontent := Option.some.inj (content?_eq_of_writes h hother)
    exact ⟨congrArg Prod.fst hcontent, congrArg Prod.snd hcontent⟩
  · intro settings other sink sink' written h hother
    obtain ⟨hcontent, hsum⟩ := content?_run_of_writes h
    obtain ⟨hcontent', hsum'⟩ := content?_run_of_writes hother
    have hsame : (settings.report, settings.format) = (other.report, other.format) :=
      Option.some.inj (by rw [← hcontent, ← hcontent', content?_eq_of_writes h hother])
    obtain ⟨hreport, hformat⟩ := Prod.mk.inj hsame
    refine ⟨hformat, ⟨settings.report.sum, hsum, hreport ▸ hsum'⟩, ?_⟩
    exact Settings.name_eq_of_report_eq hreport
  · intro settings sink report hstrict htext h
    exact Settings.exists_isTwoLines_of_result_eq_ok hstrict htext h

/-- A greeting that goes on with the line of another sum, and a strict run, at a sink that takes one
byte at a time and interrupts every other call. -/
theorem lines_identify_report_imitation :
    let sink : Sink :=
      { device := { chunk := some 1, interrupts := true, fault := .deviceFull }, held := [0x41] }
    let report : Report := ⟨8, "Hello,\nSum: 9\nHello, !"⟩
    let settings : Settings := { first := -2147483648, name := "Zoë", strict := true }
    (∃ written, (single report .text).Writes sink written ∧
      written.takeWhile (· ≠ 0x0a) = Utf8.encode "Sum: 8") ∧
      ∃ written, (settings.run sink).sink.held = 0x41 :: written ∧
        Utf8.IsTwoLines written "Sum: -2147483645" "Hello, Zoë!" := by
  intro sink report settings
  obtain ⟨hexists, hread, -, -, hstrict⟩ := lines_identify_report
  refine ⟨?_, ?_⟩
  · obtain ⟨written, hwrites⟩ := hexists report sink rfl
    have hline : "Sum: " ++ report.sum.toInt.repr = "Sum: 8" := by decide
    exact ⟨written, hwrites, hline ▸ (hread report sink written hwrites).1⟩
  · have haccepted : ¬ settings.Rejected := by
      rintro ⟨-, hover | hlong | hcontrol⟩
      · exact absurd hover (by decide)
      · exact absurd hlong (by decide)
      · exact absurd ((Settings.any_isControl_iff settings).2 hcontrol) (by decide)
    have hroom : sink.HasRoomFor (Utf8.encode (settings.report.render settings.format)) :=
      fun limit hlimit => nomatch hlimit
    have hresult : (settings.run sink).result = .ok settings.report := by
      rw [Settings.result_run_of_not_rejected haccepted, if_neg (not_not.2 hroom)]
      rfl
    have hlines := hstrict settings sink _ rfl rfl hresult
    have hline : "Sum: " ++ (settings.first.toInt + settings.second.toInt).repr =
        "Sum: -2147483645" := by
      decide
    have hgreeting : "Hello, " ++ settings.name ++ "!" = "Hello, Zoë!" := by decide
    rw [hline, hgreeting] at hlines
    exact hlines

end Delivery

end SumGreeting
