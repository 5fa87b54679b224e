import Mathlib.Tactic.SplitIfs
import SumGreeting.Proofs.Delivery
import SumGreeting.Session

/-!
# What decides about a run

Several things can be wrong with one run at the same time: the sum can be out of range, the name
too long and full of control characters, and the sink without room.  One fixed order decides which
of them the run reports.  The first three are found before anything is written, so a run that ends
with one of them is not seen by whatever uses the sink afterwards.

## Main definitions

* `Sink.HasRoomFor` : the limit of a sink leaves room for more bytes.
* `Settings.total` : the sum that a run has to report, as an integer.
* `Settings.EndsWith` : the result that a run has to have, as the first condition that applies.

## Main results

* `Settings.endsWith_run` : a run has this result.
* `Session.run_cons_of_rejected` : a rejected run changes nothing for the rest of a session.
* `Settings.run_precedence` : both together, and the only failure of a run that is not strict.
-/

namespace SumGreeting

/-! ### Room in a sink -/

instance (device : Device) (count : Nat) : Decidable (device.Fits count) :=
  inferInstanceAs (Decidable (∀ limit ∈ device.limit, count ≤ limit))

/-- The limit leaves room for the bytes in addition to what the sink holds. -/
def Sink.HasRoomFor (sink : Sink) (bytes : List UInt8) : Prop :=
  sink.device.Fits (sink.held.length + bytes.length)

instance (sink : Sink) (bytes : List UInt8) : Decidable (sink.HasRoomFor bytes) :=
  inferInstanceAs (Decidable (sink.device.Fits _))

theorem Sink.fitting_eq_self_iff_hasRoomFor {sink : Sink} {bytes : List UInt8} (h : bytes ≠ []) :
    sink.fitting bytes = bytes ↔ sink.HasRoomFor bytes := by
  have hpos : 0 < bytes.length := List.length_pos_iff.2 h
  rw [fitting_eq_self_iff, HasRoomFor, Device.Fits]
  refine forall_congr' fun limit => imp_congr_right fun _ => ?_
  omega

namespace Settings

/-! ### The order of the conditions -/

/-- The sum that the settings ask for: the sum of the operands as it is in a strict run, and wrapped
around to 32 bits in any other one. -/
def total (settings : Settings) : Int :=
  if settings.strict then settings.first.toInt + settings.second.toInt
  else (settings.first.toInt + settings.second.toInt).bmod 4294967296

/-- The result of a run with the settings is decided by the first of these conditions that
applies. -/
def EndsWith (settings : Settings) (sink : Sink) (result : Except Failure Report) : Prop :=
  if settings.strict = true ∧ settings.Overflows then
    result = .error (.overflow settings.first settings.second)
  else if settings.strict = true ∧ 256 < settings.name.length then
    result = .error (.nameTooLong settings.name.length 256)
  else if settings.strict = true ∧ settings.HasControlCharacter then
    result = .error (.controlCharacters settings.name)
  else if ¬ sink.HasRoomFor (Utf8.encode (settings.report.render settings.format)) then
    result = .error (.output sink.refusal)
  else if sink.device.flushFails = true then
    result = .error (.output sink.device.fault)
  else
    result = .ok settings.report ∧ settings.report.greeting = "Hello, " ++ settings.name ++ "!" ∧
      settings.report.sum.toInt = settings.total

variable {settings : Settings}

/-- The reason to turn settings down, with all conditions in one row. -/
theorem rejection?_eq (settings : Settings) :
    settings.rejection? =
      if settings.strict = true ∧ settings.Overflows then
        some (.overflow settings.first settings.second)
      else if settings.strict = true ∧ 256 < settings.name.length then
        some (.nameTooLong settings.name.length 256)
      else if settings.strict = true ∧ settings.HasControlCharacter then
        some (.controlCharacters settings.name)
      else none := by
  rw [rejection?]
  cases settings.strict <;> simp

/-- The result of a run that is not turned down, by what the sink does. -/
theorem result_run_of_not_rejected (h : ¬ settings.Rejected) (sink : Sink) :
    (settings.run sink).result =
      if ¬ sink.HasRoomFor (Utf8.encode (settings.report.render settings.format)) then
        .error (.output sink.refusal)
      else if sink.device.flushFails = true then .error (.output sink.device.fault)
      else .ok settings.report := by
  have hne := settings.report.encode_render_ne_nil settings.format
  rw [result_run, rejection?_eq_none_iff.2 h, Report.fst_deliver]
  simp only [Sink.fitting_eq_self_iff_hasRoomFor hne, ite_not]
  split_ifs <;> rfl

/-- A run that is not turned down for its sum computes the sum that its settings ask for. -/
theorem toInt_sum_report_eq_total (h : ¬ (settings.strict = true ∧ settings.Overflows)) :
    settings.report.sum.toInt = settings.total := by
  rw [total]
  split_ifs with hstrict
  · exact toInt_sum_report fun hover => h ⟨hstrict, hover⟩
  · exact toInt_wrappingSum settings.first settings.second

/-- **The result of a run** is decided by the first condition that applies. -/
theorem endsWith_run (settings : Settings) (sink : Sink) :
    settings.EndsWith sink (settings.run sink).result := by
  cases h : settings.rejection? with
  | some failure =>
    have hresult := (run_of_rejection?_eq_some h sink).1
    rw [rejection?_eq] at h
    unfold EndsWith
    split_ifs at h ⊢ <;> cases h <;> exact hresult
  | none =>
    have hrejected := rejection?_eq_none_iff.1 h
    have hresult := result_run_of_not_rejected hrejected sink
    have htotal := toInt_sum_report_eq_total fun hover => hrejected ⟨hover.1, Or.inl hover.2⟩
    rw [rejection?_eq] at h
    unfold EndsWith
    split_ifs at h hresult ⊢
    · exact hresult
    · exact ⟨hresult, greet_eq settings.name, htotal⟩
    · exact hresult

/-- A run that is not strict fails only with the sink. -/
theorem exists_output_of_lenient (hlenient : settings.strict = false) {sink : Sink}
    {failure : Failure} (h : (settings.run sink).result = .error failure) :
    ∃ fault, failure = .output fault := by
  have hrejected : ¬ settings.Rejected := by
    rintro ⟨hstrict, -⟩
    rw [hlenient] at hstrict
    cases hstrict
  rw [result_run_of_not_rejected hrejected] at h
  split_ifs at h <;> cases h <;> exact ⟨_, rfl⟩

/-- A rejected run does not touch the sink. -/
theorem sink_run_of_rejected (h : settings.Rejected) (sink : Sink) :
    (settings.run sink).sink = sink := by
  cases hrejection : settings.rejection? with
  | none => exact absurd h (rejection?_eq_none_iff.1 hrejection)
  | some failure => exact (run_of_rejection?_eq_some hrejection sink).2

end Settings

/-! ### What comes after a rejected run -/

/-- **A rejected run changes nothing for the rest of a session.** It adds no byte and makes no
flush call, and all later operations answer as if it had not been made. -/
theorem Session.run_cons_of_rejected {settings : Settings} (h : settings.Rejected)
    (reader : Directive.Reader) (session : Session) (later : List Operation) :
    session.run reader (.run settings :: later) =
      (.run (settings.run session.sink).result [] session.sink.flushes ::
          (session.run reader later).1,
        (session.run reader later).2) := by
  have hstep : session.step reader (.run settings) =
      (.run (settings.run session.sink).result [] session.sink.flushes, session) := by
    rw [step, Settings.sink_run_of_rejected h, added, List.drop_length]
  rw [run, hstep]

namespace Settings

/-- **One order of precedence decides about a run.** Its result is the first that applies of: the
sum is out of range, the name is too long, the name has a control character, the report cannot be
written, it cannot be flushed, and success.  A run that ends with one of the first three leaves the
sink and everything that comes later in a session as if it had not been made.  A run that is not
strict fails only with the sink. -/
theorem run_precedence (settings : Settings) (sink : Sink) :
    settings.EndsWith sink (settings.run sink).result ∧
      (settings.Rejected →
        (settings.run sink).sink = sink ∧
          ∀ (reader : Directive.Reader) (quiet : Bool) (later : List Operation),
            Session.run reader ⟨quiet, sink⟩ (.run settings :: later) =
              let rest := Session.run reader ⟨quiet, sink⟩ later
              (.run (settings.run sink).result [] sink.flushes :: rest.1, rest.2)) ∧
      (settings.strict = false → ∀ failure, (settings.run sink).result = .error failure →
        ∃ fault, failure = .output fault) := by
  refine ⟨settings.endsWith_run sink, fun hrejected => ⟨?_, ?_⟩, ?_⟩
  · exact sink_run_of_rejected hrejected sink
  · intro reader quiet later
    exact Session.run_cons_of_rejected hrejected reader ⟨quiet, sink⟩ later
  · intro hlenient failure hfailure
    exact exists_output_of_lenient hlenient hfailure

/-- At a full sink, a strict run that is rejected leaves the sink alone, and the run that is not
strict fails with the sink. -/
theorem run_precedence_full_sink :
    let settings : Settings := { first := 2147483647, second := 1, name := "\n", strict := true }
    let sink : Sink := { device := { limit := some 0, fault := .deviceFull } }
    settings.Rejected ∧ (settings.run sink).sink = sink ∧
      ∃ fault, ({ settings with strict := false }.run sink).result = .error (.output fault) := by
  intro settings sink
  have hrejected : settings.Rejected := ⟨rfl, Or.inl (Or.inr (by decide))⟩
  have haccepted : ¬ ({ settings with strict := false } : Settings).Rejected :=
    fun h => Bool.false_ne_true h.1
  have hroom : ¬ sink.HasRoomFor
      (Utf8.encode ({ settings with strict := false }.report.render settings.format)) := by
    intro hroom
    have hlen := Nat.le_zero.1 (hroom 0 rfl)
    exact Report.encode_render_ne_nil _ _
      (List.length_eq_zero_iff.1 (Nat.eq_zero_of_add_eq_zero_left hlen))
  have hfails := result_run_of_not_rejected haccepted sink
  rw [if_pos hroom] at hfails
  obtain ⟨fault, hfault⟩ := (run_precedence _ sink).2.2 rfl _ hfails
  exact ⟨hrejected, ((run_precedence settings sink).2.1 hrejected).1, fault, hfault ▸ hfails⟩

end Settings

end SumGreeting
