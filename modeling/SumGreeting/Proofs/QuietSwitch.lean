import SumGreeting.Proofs.ErrorStream.Contents
import SumGreeting.Session

/-!
# The quiet switch of a session

The operations of a session share a quiet switch.  Only one kind of operation moves it; a run whose
settings ask for quiet does not.  Where it stands matters to the notices and to nothing else: two
sessions that move it differently go on giving the same answers and leave the same sink.

## Main definitions

* `Session.lastSwitch` : where the last of some operations that moves the switch has put it.
* `Operation.withoutSwitch` : an operation without the new position of the switch.
* `Operation.notice` : what an operation writes as long as notices are not suppressed.
* `Answer.noticeText`, `Answer.withoutNotices` : the notices of an answer, and all the rest of it.

## Main results

* `Session.quiet_step`, `Session.quiet_run` : what moves the switch.
* `Session.noticeText_step` : what the switch does to notices.
* `Session.step_withoutSwitch`, `Session.run_withoutSwitch` : the switch does nothing else.
* `Session.quiet_switch_frame` : all of this for any operations on one sink.
-/

namespace SumGreeting

/-! ### Operations and answers without the switch -/

namespace Operation

/-- Where the operation puts the quiet switch, if it moves it. -/
def switch? : Operation → Option Bool
  | setQuiet quiet => some quiet
  | _ => none

/-- The operation without the new position of the quiet switch. -/
def withoutSwitch : Operation → Operation
  | setQuiet _ => setQuiet false
  | operation => operation

/-- What the operation writes to the error stream as long as notices are not suppressed. -/
def notice (reader : Directive.Reader) : Operation → String
  | notify text => text ++ "\n"
  | chooseFilter text verbosity => Program.warningText reader false text verbosity
  | runLogged _ text verbosity => Program.warningText reader false text verbosity
  | _ => ""

end Operation

namespace Answer

/-- The notices in the answer. -/
def noticeText : Answer → String
  | notice text => text
  | filter _ warning => warning
  | runLogged _ _ _ _ warning => warning
  | _ => ""

/-- The answer without the position of the quiet switch and without notices. -/
def withoutNotices : Answer → Answer
  | quiet _ => quiet false
  | notice _ => notice ""
  | filter chosen _ => filter chosen ""
  | runLogged result added flushes log _ => runLogged result added flushes log ""
  | answer => answer

end Answer

namespace Session

variable {reader : Directive.Reader} {session session' : Session}

/-! ### What moves the switch -/

/-- Where the last of the operations that moves the quiet switch has put it; it is off before. -/
def lastSwitch (operations : List Operation) : Bool :=
  (operations.filterMap Operation.switch?).getLast?.getD false

/-- An operation moves the switch if it is made for that, and leaves it where it is otherwise. -/
theorem quiet_step (session : Session) (operation : Operation) :
    (session.step reader operation).2.quiet = operation.switch?.getD session.quiet := by
  cases operation with
  | chooseFilter text verbosity =>
    rw [step]
    cases Filter.choose reader text verbosity <;> rfl
  | runLogged settings text verbosity =>
    rw [step]
    cases Filter.choose reader text verbosity <;> rfl
  | _ => rfl

/-- After some operations the switch is where the last one that moves it has put it. -/
theorem quiet_run (session : Session) (operations : List Operation) :
    (session.run reader operations).2.quiet =
      (operations.filterMap Operation.switch?).getLast?.getD session.quiet := by
  induction operations generalizing session with
  | nil => rfl
  | cons operation rest ih =>
    have hrun : (session.run reader (operation :: rest)).2 =
        ((session.step reader operation).2.run reader rest).2 := rfl
    rw [hrun, ih, quiet_step, List.filterMap_cons]
    cases operation.switch? with
    | none => rfl
    | some quiet =>
      rw [List.getLast?_cons]
      rfl

/-! ### What the switch does -/

/-- The notices of an operation are suppressed by the switch, and depend on nothing else that came
before. -/
theorem noticeText_step (session : Session) (operation : Operation) :
    (session.step reader operation).1.noticeText =
      if session.quiet then "" else operation.notice reader := by
  have hwarning {text : Option String} {verbosity : Nat} {chosen : Filter × Option Filter.Rejection}
      (h : Filter.choose reader text verbosity = .ok chosen) :
      Filter.rejectionText session.quiet chosen.2 =
        if session.quiet then "" else Program.warningText reader false text verbosity := by
    rw [Program.rejectionText_of_choose h, Program.warningText_eq]
  have hsilent {text : Option String} {verbosity : Nat} {crash : Crash}
      (h : Filter.choose reader text verbosity = .error crash) :
      "" = if session.quiet then "" else Program.warningText reader false text verbosity := by
    rw [Program.warningText_of_crash h, ite_self]
  cases operation with
  | notify text => rfl
  | chooseFilter text verbosity =>
    rw [step]
    cases hchoose : Filter.choose reader text verbosity with
    | ok chosen => exact hwarning hchoose
    | error crash => exact hsilent hchoose
  | runLogged settings text verbosity =>
    rw [step]
    cases hchoose : Filter.choose reader text verbosity with
    | ok chosen => exact hwarning hchoose
    | error crash => exact hsilent hchoose
  | _ => exact (ite_self "").symm

/-- Apart from the notices, an operation does the same wherever the switch stands, and whatever it
does to the switch. -/
theorem step_withoutSwitch {operation operation' : Operation} (hsink : session.sink = session'.sink)
    (h : operation.withoutSwitch = operation'.withoutSwitch) :
    (session.step reader operation).1.withoutNotices =
        (session'.step reader operation').1.withoutNotices ∧
      (session.step reader operation).2.sink = (session'.step reader operation').2.sink := by
  -- Both are compared with the operation that switches nothing, in a session that is not quiet.
  have hplain (session : Session) (operation : Operation) :
      (session.step reader operation).1.withoutNotices =
          (step reader ⟨false, session.sink⟩ operation.withoutSwitch).1.withoutNotices ∧
        (session.step reader operation).2.sink =
          (step reader ⟨false, session.sink⟩ operation.withoutSwitch).2.sink := by
    cases operation with
    | chooseFilter text verbosity =>
      dsimp only [Operation.withoutSwitch]
      rw [step, step]
      cases Filter.choose reader text verbosity <;> exact ⟨rfl, rfl⟩
    | runLogged settings text verbosity =>
      dsimp only [Operation.withoutSwitch]
      rw [step, step]
      cases Filter.choose reader text verbosity <;> exact ⟨rfl, rfl⟩
    | _ => exact ⟨rfl, rfl⟩
  rw [(hplain session operation).1, (hplain session operation).2, (hplain session' operation').1,
    (hplain session' operation').2, hsink, h]
  exact ⟨rfl, rfl⟩

/-- Apart from the notices, operations that differ only in what they do to the switch do the
same. -/
theorem run_withoutSwitch {operations operations' : List Operation}
    (hsink : session.sink = session'.sink)
    (h : operations.map Operation.withoutSwitch = operations'.map Operation.withoutSwitch) :
    (session.run reader operations).1.map Answer.withoutNotices =
        (session'.run reader operations').1.map Answer.withoutNotices ∧
      (session.run reader operations).2.sink = (session'.run reader operations').2.sink := by
  induction operations generalizing operations' session session' with
  | nil =>
    cases operations' with
    | nil => exact ⟨rfl, hsink⟩
    | cons => cases h
  | cons operation rest ih =>
    cases operations' with
    | nil => cases h
    | cons operation' rest' =>
      obtain ⟨hoperation, hrest⟩ := List.cons.inj h
      obtain ⟨hanswer, hnext⟩ := step_withoutSwitch hsink hoperation
      obtain ⟨hanswers, hlast⟩ := ih hnext hrest
      exact ⟨congrArg₂ List.cons hanswer hanswers, hlast⟩

/-! ### The answers in their order -/

theorem length_run (reader : Directive.Reader) (session : Session) (operations : List Operation) :
    (session.run reader operations).1.length = operations.length := by
  induction operations generalizing session with
  | nil => rfl
  | cons operation rest ih => exact congrArg Nat.succ (ih _)

theorem fst_run_append (session : Session) (before later : List Operation) :
    (session.run reader (before ++ later)).1 =
      (session.run reader before).1 ++ ((session.run reader before).2.run reader later).1 := by
  induction before generalizing session with
  | nil => rfl
  | cons operation rest ih => exact congrArg (List.cons _) (ih _)

/-- The answer to an operation is the one in the session that the operations before it leave. -/
theorem getElem?_run (session : Session) (before : List Operation) (operation : Operation)
    (later : List Operation) :
    (session.run reader (before ++ operation :: later)).1[before.length]? =
      some ((session.run reader before).2.step reader operation).1 := by
  rw [fst_run_append, ← length_run reader session before,
    List.getElem?_append_right (Nat.le_refl _), Nat.sub_self]
  rfl

/-- **The quiet switch is moved on purpose only, and affects notices only.** At every point of a
session it stands where the last operation made for that has put it, or is off if there was none,
and is answered so.  The notices of an operation are missing where it is on; where it is off they
are the ones of the operation, whatever came before.  Two sessions on the same sink whose operations
differ only in what they do to the switch give the same answers, apart from the position of the
switch and the notices, and leave the same sink after every operation. -/
theorem quiet_switch_frame (reader : Directive.Reader) (sink : Sink) :
    (∀ before operation later,
      (run reader { sink } before).2.quiet = lastSwitch before ∧
        ∃ answer,
          (run reader { sink } (before ++ operation :: later)).1[before.length]? = some answer ∧
          (operation = .isQuiet → answer = .quiet (lastSwitch before)) ∧
          answer.noticeText = if lastSwitch before then "" else operation.notice reader) ∧
      ∀ operations operations' : List Operation,
        operations.map Operation.withoutSwitch = operations'.map Operation.withoutSwitch →
          (run reader { sink } operations).1.map Answer.withoutNotices =
              (run reader { sink } operations').1.map Answer.withoutNotices ∧
            ∀ count, (run reader { sink } (operations.take count)).2.sink =
              (run reader { sink } (operations'.take count)).2.sink := by
  refine ⟨fun before operation later => ?_, fun operations operations' h => ⟨?_, fun count => ?_⟩⟩
  · have hquiet : (run reader { sink } before).2.quiet = lastSwitch before :=
      quiet_run { sink } before
    refine ⟨hquiet, _, getElem?_run { sink } before operation later, ?_, ?_⟩
    · rintro rfl
      rw [← hquiet]
      rfl
    · rw [noticeText_step, hquiet]
  · exact (run_withoutSwitch rfl h).1
  · refine (run_withoutSwitch rfl ?_).2
    rw [List.map_take, List.map_take, h]

/-- A run whose settings ask for quiet leaves the switch off, and writes the same bytes in a session
that turns it on before. -/
theorem quiet_switch_frame_quiet_settings :
    let reader := Directive.Language.lenient.read
    let sink : Sink := { device := { fault := .readerGone } }
    let before : List Operation := [.run { quiet := true }]
    let operations (quiet : Bool) : List Operation := [.setQuiet quiet, .run { quiet := true }]
    (run reader { sink } before).2.quiet = false ∧
      (operations true).map Operation.withoutSwitch =
        (operations false).map Operation.withoutSwitch ∧
      (run reader { sink } (operations true)).2.sink =
        (run reader { sink } (operations false)).2.sink := by
  intro reader sink before operations
  have hsame : (operations true).map Operation.withoutSwitch =
      (operations false).map Operation.withoutSwitch := rfl
  exact ⟨((quiet_switch_frame reader sink).1 before .isQuiet []).1, hsame,
    ((quiet_switch_frame reader sink).2 (operations true) (operations false) hsame).2 2⟩

end Session

end SumGreeting
