import Mathlib.Data.List.Induction
import Mathlib.Data.String.Basic
import SumGreeting.Proofs.Filter.AllOrNothing
import SumGreeting.Proofs.Filter.Entry
import SumGreeting.Proofs.Trace.Records

/-!
# The longest target decides, and the last entry of several

A filter put together from well-formed entries is accepted.  Of the entries whose target is a
beginning of the target of an event, the ones with the longest target decide on the event, and of
these the last one.

The directives are gone through in the order of the entries, and the better one of two is kept.
Targets that are beginnings of one text are compared by their length in bytes as by their length in
characters, since the shorter one is a beginning of the longer one.

## Main definitions

* `Filter.Entry.ruling?` : the entry that decides on the events of a target.
* `Filter.Entry.Allowed` : what this entry allows.

## Main results

* `Filter.Entry.lastLongest?_concat` : what a further entry changes about the choice.
* `Filter.Entry.decisive_eq` : the entry that decides gives the directive that decides.
* `Filter.ofText_entries` : the filter put together from entries.
* `Filter.longest_target_rules` : what such a filter lets through.
-/

namespace SumGreeting.Filter

namespace Entry

variable {entries : List Entry} {entry best : Entry} {target : String}

/-! ### The entry that decides -/

/-- Of the entries with the longest target, the last one. -/
def lastLongest? (entries : List Entry) : Option Entry :=
  (entries.filter fun entry =>
    entries.all fun other => other.target.length ≤ entry.target.length).getLast?

/-- The entry that decides on the events of a target.  It is one whose own target is a beginning of
that target, the last one of those with the longest. -/
def ruling? (entries : List Entry) (target : String) : Option Entry :=
  lastLongest? (entries.filter fun entry => entry.target.isPrefixOf target.toList)

/-- The entries allow events of the severity with the target: there is an entry that decides on
them, and its threshold is high enough. -/
def Allowed (entries : List Entry) (severity : Severity) (target : String) : Prop :=
  ∃ entry ∈ ruling? entries target, severity.rank ≤ entry.threshold.rank

instance (entries : List Entry) (severity : Severity) (target : String) :
    Decidable (Allowed entries severity target) :=
  inferInstanceAs (Decidable (∃ entry ∈ ruling? entries target, _))

/-- A further entry takes over if no target is longer than its own. -/
theorem lastLongest?_concat (entries : List Entry) (entry : Entry) :
    lastLongest? (entries ++ [entry]) =
      if ∀ other ∈ entries, other.target.length ≤ entry.target.length then some entry
      else lastLongest? entries := by
  unfold lastLongest?
  split_ifs with hlongest
  · have hentry : [entry].filter (fun e : Entry => (entries ++ [entry]).all fun other =>
        other.target.length ≤ e.target.length) = [entry] := by
      simpa using hlongest
    rw [List.filter_append, hentry, List.getLast?_concat]
  · obtain ⟨longer, hmem, hlonger⟩ : ∃ other ∈ entries,
        entry.target.length < other.target.length := by simpa using hlongest
    have hentry : [entry].filter (fun e : Entry => (entries ++ [entry]).all fun other =>
        other.target.length ≤ e.target.length) = [] := by
      simpa using ⟨longer, hmem, hlonger⟩
    rw [List.filter_append, hentry, List.append_nil]
    -- An entry with the longest target so far is also longer than the further one.
    refine congrArg List.getLast? (List.filter_congr fun other _ => ?_)
    rw [List.all_append, Bool.and_eq_left_iff_imp]
    intro hall
    have hle : longer.target.length ≤ other.target.length := by
      simpa using List.all_eq_true.1 hall longer hmem
    simpa using Nat.le_trans (Nat.le_of_lt hlonger) hle

/-- Where there is any entry, one is chosen. -/
theorem exists_lastLongest? (h : entries ≠ []) : ∃ best, lastLongest? entries = some best := by
  induction entries using List.reverseRecOn with
  | nil => exact absurd rfl h
  | append_singleton entries entry ih =>
    rw [lastLongest?_concat]
    split_ifs with hlongest
    · exact ⟨entry, rfl⟩
    · refine ih ?_
      rintro rfl
      exact hlongest (by simp)

/-- No target is longer than the one of the entry that is chosen. -/
theorem mem_of_lastLongest? (h : lastLongest? entries = some best) :
    best ∈ entries ∧ ∀ other ∈ entries, other.target.length ≤ best.target.length := by
  obtain ⟨hmem, hall⟩ := List.mem_filter.1 (List.mem_of_getLast? h)
  exact ⟨hmem, by simpa using hall⟩

/-! ### The directive that decides -/

theorem targetRank_directive (entry : Entry) :
    entry.directive.targetRank =
      if entry.target = [] then 0 else String.utf8Len entry.target + 1 := by
  cases entry with
  | general chars threshold h => rfl
  | assigned target chars threshold h =>
    rw [Entry.target, if_neg target.ne_nil, ← String.utf8ByteSize_ofList]
    rfl
  | unlimited target h =>
    rw [Entry.target, if_neg target.ne_nil, ← String.utf8ByteSize_ofList]
    rfl

/-- Of two targets one of which begins with the other, the longer one is the more specific one. -/
theorem targetRank_le_iff_of_append {d e : Entry} (h : d.target <+: e.target) :
    d.directive.targetRank ≤ e.directive.targetRank ∧
      (e.directive.targetRank ≤ d.directive.targetRank ↔ e.target.length ≤ d.target.length) := by
  obtain ⟨rest, hrest⟩ := h
  rcases eq_or_ne rest [] with rfl | hne
  · rw [List.append_nil] at hrest
    rw [targetRank_directive, targetRank_directive, hrest]
    exact ⟨le_rfl, iff_of_true le_rfl le_rfl⟩
  · have hlen : d.target.length < e.target.length := by
      rw [← hrest, List.length_append]
      exact Nat.lt_add_of_pos_right (List.length_pos_of_ne_nil hne)
    have hbytes : String.utf8Len d.target < String.utf8Len e.target := by
      rw [← hrest, String.utf8Len_append]
      exact Nat.lt_add_of_pos_right (Nat.pos_of_ne_zero fun hzero =>
        hne (String.utf8Len_eq_zero.1 hzero))
    have hlt : d.directive.targetRank < e.directive.targetRank := by
      rw [targetRank_directive, targetRank_directive,
        if_neg (List.ne_nil_of_length_pos (Nat.zero_lt_of_lt hlen))]
      split_ifs <;> omega
    exact ⟨hlt.le, iff_of_false hlt.not_ge hlen.not_ge⟩

/-- Entries for one target are compared by the length of their own targets. -/
theorem yieldsTo_iff {d e : Entry} (hd : d.target <+: target.toList)
    (he : e.target <+: target.toList) :
    d.directive.yieldsTo e.directive = true ↔ d.target.length ≤ e.target.length := by
  have hyields : d.directive.yieldsTo e.directive = true ↔
      d.directive.targetRank ≤ e.directive.targetRank := by
    have hfield : Directive.fieldYields d.directive.field e.directive.field = true := rfl
    simp only [Directive.yieldsTo, hfield, Bool.and_true, Bool.or_eq_true, decide_eq_true_eq]
    omega
  rw [hyields]
  rcases List.prefix_or_prefix_of_prefix hd he with hprefix | hprefix
  · exact iff_of_true (targetRank_le_iff_of_append hprefix).1 hprefix.length_le
  · exact (targetRank_le_iff_of_append hprefix).2

theorem covers_directive (entry : Entry) (target : String) (names : List String) :
    entry.directive.covers target names = entry.target.isPrefixOf target.toList := by
  cases entry <;> simp [directive, Entry.target, Directive.covers, Directive.coversTarget,
    Directive.coversFields]

/-- Going through the directives of entries for one target ends with the last one of those with the
longest target. -/
theorem foldl_prefer_directives (h : ∀ entry ∈ entries, entry.target <+: target.toList) :
    (entries.map directive).foldl Directive.prefer none =
      (lastLongest? entries).map directive := by
  induction entries using List.reverseRecOn with
  | nil => rfl
  | append_singleton entries entry ih =>
    obtain ⟨hentries, hentry⟩ := List.forall_mem_append.1 h
    rw [List.map_append, List.foldl_append, ih hentries, lastLongest?_concat]
    by_cases hnil : entries = []
    · subst hnil
      rfl
    · obtain ⟨best, hbest⟩ := exists_lastLongest? hnil
      obtain ⟨hmem, hlongest⟩ := mem_of_lastLongest? hbest
      have hiff : (∀ other ∈ entries, other.target.length ≤ entry.target.length) ↔
          best.directive.yieldsTo entry.directive = true := by
        rw [yieldsTo_iff (hentries best hmem) (hentry entry List.mem_cons_self)]
        exact ⟨fun hall => hall best hmem, fun hle other hother =>
          Nat.le_trans (hlongest other hother) hle⟩
      simp only [hbest, hiff, Option.map_some, List.map_cons, List.map_nil, List.foldl_cons,
        List.foldl_nil, Directive.prefer]
      split_ifs <;> rfl

/-- **The entry that decides gives the directive that decides.** -/
theorem decisive_eq (entries : List Entry) (target : String) (names : List String) :
    Directive.decisive (entries.map directive) target names =
      (ruling? entries target).map directive := by
  have hcovers : (fun d : Directive => d.covers target names) ∘ directive =
      fun entry : Entry => entry.target.isPrefixOf target.toList :=
    funext fun entry => covers_directive entry target names
  rw [Directive.decisive, List.filter_map, hcovers]
  exact foldl_prefer_directives fun entry hentry =>
    List.isPrefixOf_iff_prefix.1 (List.mem_filter.1 hentry).2

end Entry

/-! ### Filters made of entries -/

variable {entries : List Entry}

theorem readAll_map_chars (language : Directive.Language) (entries : List Entry) :
    readAll language.read (entries.map Entry.chars) = .ok (entries.map Entry.directive) := by
  induction entries with
  | nil => rfl
  | cons entry entries ih =>
    rw [List.map_cons, readAll, entry.read_chars language]
    simp only [ih, List.map_cons]

/-- The parts of a text put together from entries are the entries. -/
theorem parts_intercalate (entries : List Entry) :
    parts (",".intercalate (entries.map Entry.text)) = entries.map Entry.chars := by
  have hchars : (",".intercalate (entries.map Entry.text)).toList =
      [','].intercalate (entries.map Entry.chars) := by
    rw [String.toList_intercalate, List.map_map]
    exact congrArg _ (List.map_congr_left fun entry _ => String.toList_ofList)
  have hnonempty : ∀ part ∈ entries.map Entry.chars, (!part.isEmpty) = true := by
    intro part hpart
    obtain ⟨entry, -, rfl⟩ := List.mem_map.1 hpart
    simpa using entry.chars_ne_nil
  have hcomma : ∀ part ∈ entries.map Entry.chars, ',' ∉ part := by
    intro part hpart
    obtain ⟨entry, -, rfl⟩ := List.mem_map.1 hpart
    exact entry.comma_notMem_chars
  rw [parts, hchars]
  cases entries with
  | nil => rfl
  | cons entry entries =>
    rw [List.splitOn_intercalate ',' hcomma (List.cons_ne_nil _ _), List.filter_eq_self]
    exact hnonempty

/-- Entries that are put together make a filter with their directives. -/
theorem ofText_entries (language : Directive.Language) (entries : List Entry) :
    ofText language.read (",".intercalate (entries.map Entry.text)) =
      .ok ⟨entries.map Entry.directive⟩ := by
  rw [ofText, directiveTexts_eq_parts, parts_intercalate, readAll_map_chars]

theorem permits_entries_iff {severity : Severity} {target : String} {names : List String} :
    permits ⟨entries.map Entry.directive⟩ severity target names = true ↔
      Entry.Allowed entries severity target := by
  rw [permits, Entry.decisive_eq, Entry.Allowed]
  cases Entry.ruling? entries target with
  | none => simp
  | some entry => simp [Threshold.allows, Entry.directive]

/-- What an entry can lead to is its threshold. -/
theorem Entry.ceiling_directive (entry : Entry) : entry.directive.ceiling = entry.threshold :=
  Directive.ceiling_of_not_asksForValue rfl

/-- **The longest target decides, and the last entry of several.** Entries that are put together
with commas are accepted as a filter without a warning.  Its highest threshold is the highest one
among the entries, or the one that allows nothing where there is no entry.  The filter lets an event
through exactly if there is an entry whose target is a beginning of the target of the event, and if
the last one of those with the longest target has a threshold that is high enough.  So a run is
logged as this rule says. -/
theorem longest_target_rules (language : Directive.Language) (entries : List Entry)
    (verbosity : Nat) (quiet : Bool) :
    let text := ",".intercalate (entries.map Entry.text)
    ∃ filter rejection, choose language.read (some text) verbosity = .ok (filter, rejection) ∧
      Accepts language.read text ∧ rejectionText quiet rejection = "" ∧
      (∀ entry ∈ entries, entry.threshold.rank ≤ filter.maxThreshold.rank) ∧
      (entries = [] ∧ filter.maxThreshold = .off ∨
        ∃ entry ∈ entries, entry.threshold = filter.maxThreshold) ∧
      (∀ severity target names, filter.permits severity target names = true ↔
        Entry.Allowed entries severity target) ∧
      ∀ (settings : Settings) (sink : Sink),
        filter.log (settings.run sink).events =
          String.join (((settings.run sink).events.filter fun event =>
            Entry.Allowed entries event.severity "hello_sum::cli::run").map Event.line) := by
  intro text
  have htext : ofText language.read text = .ok ⟨entries.map Entry.directive⟩ :=
    ofText_entries language entries
  refine ⟨⟨entries.map Entry.directive⟩, none, choose_of_ofText htext verbosity, ⟨_, htext⟩, rfl,
    fun entry hentry => ?_, ?_, fun severity target names => permits_entries_iff,
    fun settings sink => ?_⟩
  · rw [← entry.ceiling_directive]
    exact rank_le_maxThreshold (List.mem_map_of_mem (f := Entry.directive) hentry)
  · rcases exists_maxThreshold_eq ⟨entries.map Entry.directive⟩ with ⟨hnil, hoff⟩ | ⟨d, hd, hmax⟩
    · exact Or.inl ⟨List.map_eq_nil_iff.1 hnil, hoff⟩
    · obtain ⟨entry, hentry, rfl⟩ := List.mem_map.1 hd
      exact Or.inr ⟨entry, hentry, entry.ceiling_directive.symm.trans hmax⟩
  · have henables : ∀ event ∈ (settings.run sink).events,
        enables ⟨entries.map Entry.directive⟩ event =
          decide (Entry.Allowed entries event.severity "hello_sum::cli::run") := by
      intro event hevent
      rw [Settings.events_run] at hevent
      rw [enables, Settings.target_of_mem_trace (List.mem_of_mem_take hevent), Bool.eq_iff_iff,
        permits_entries_iff, decide_eq_true_eq]
    rw [log, List.filter_congr henables]

/-- A longer target has its own threshold, also a lower one. -/
example (language : Directive.Language) :
    (choose language.read (some "INFO,hello_sum::cli=+01,hello_sum=debug") 0).map
      (fun chosen => chosen.1.permits .info "hello_sum::cli::run" ["message"]) = .ok false := by
  rfl

end SumGreeting.Filter
