import Surveyor.Logging

/-! Where records go after a configuration. It leaves no handler of an earlier one, so until the next one each record that
is severe enough stands once in each of its sinks and nowhere else. This counts for the loggers below the library's own;
a component has its logger there unless its name begins with a dot. Such a name needs care: its logger may stand there as
well, but an answer that it keeps from before it did may still decide what is logged. -/

namespace Surveyor.Logging

/-! ## Loggers of components -/

theorem isBelow_rootName (known : List String) : isBelow known ('.' :: rootName.toList.reverse) = true := rfl

theorem isBelow_cons (known : List String) {c : Char} (other : c ≠ '.') (rest : List Char) :
    isBelow known (c :: rest) = isBelow known rest := by
  rw [isBelow]
  simp [other]

/-- The dot behind the library's name has no other one next to it, so the search does not leap over it. -/
theorem isBelow_append (known : List String) {component : List Char} (filled : component ≠ [])
    (plain : component.getLast? ≠ some '.') : isBelow known (component ++ '.' :: rootName.toList.reverse) = true := by
  match component with
  | [c] =>
    rw [List.singleton_append, isBelow_cons known (by simpa using plain), isBelow_rootName]
  | c :: d :: rest =>
    rw [List.getLast?_cons_cons] at plain
    have outer := isBelow_append known (List.cons_ne_nil d rest) plain
    rw [List.cons_append] at outer
    rw [List.cons_append, List.cons_append]
    by_cases dot : c = '.'
    · have beyond : isBelow known (rest ++ '.' :: rootName.toList.reverse) = true := by
        cases rest with
        | nil => exact isBelow_rootName known
        | cons e rest =>
          rw [List.getLast?_cons_cons] at plain
          exact isBelow_append known (List.cons_ne_nil e rest) plain
      rw [dot, isBelow, outer, beyond, ite_self, Bool.or_true]
    · rw [isBelow_cons known dot, outer]
termination_by component.length

/-- The logger of a component is one whose records come to the library's logger. -/
def Belongs (logging : Logging) (component : String) : Prop := (logging.obtain component).receives component = true

instance (logging : Logging) (component : String) : Decidable (Belongs logging component) :=
  inferInstanceAs (Decidable (_ = true))

theorem belongs_of_plain (logging : Logging) {component : String} (plain : component.toList.head? ≠ some '.') :
    Belongs logging component := by
  rw [Belongs, receives, Bool.or_eq_true]
  by_cases empty : component.isEmpty = true
  · exact .inl empty
  · refine .inr ?_
    have name : (loggerName component).toList.reverse = component.toList.reverse ++ '.' :: rootName.toList.reverse := by
      rw [loggerName, if_neg empty]
      simp
    rw [name]
    apply isBelow_append
    · simpa using empty
    · rwa [List.getLast?_reverse]

/-! ## Runs -/

structure Configuration where
  verbose : Bool
  stream : Nat
  file : Option String
  deriving DecidableEq, Repr

namespace Configuration

def level (configuration : Configuration) : Level := if configuration.verbose then .debug else .info

/-- The stream, and the file if there is one. -/
def sinks (configuration : Configuration) : List Sink :=
  .stream configuration.stream :: (configuration.file.map .file).toList

def handler (configuration : Configuration) (sink : Sink) : Handler := ⟨sink, some configuration.level⟩

end Configuration

inductive Event where
  | configure (configuration : Configuration)
  | obtain (component : String)
  | log (call : Call)

def Event.configures : Event → Bool
  | configure _ => true
  | obtain _ | log _ => false

def step (logging : Logging) : Event → Logging
  | .configure configuration => logging.configure configuration.verbose configuration.stream configuration.file
  | .obtain component => logging.obtain component
  | .log call => logging.submit call

def run (logging : Logging) (events : List Event) : Logging := events.foldl step logging

/-- The logger stands as a configuration has left it. -/
structure Follows (logging : Logging) (configuration : Configuration) : Prop where
  level : logging.level = some configuration.level
  propagates : logging.propagates = false
  handlers : logging.handlers = configuration.sinks.map configuration.handler

theorem configure_follows (logging : Logging) (configuration : Configuration) :
    Follows (logging.step (.configure configuration)) configuration := by
  obtain ⟨verbose, stream, file⟩ := configuration
  refine ⟨rfl, rfl, ?_⟩
  cases file <;> rfl

section Following

variable {logging : Logging} {configuration : Configuration}

theorem Follows.step (follows : Follows logging configuration) {event : Event} (quiet : event.configures = false) :
    Follows (logging.step event) configuration := by
  cases event with
  | configure other => cases quiet
  | obtain component => exact ⟨follows.level, follows.propagates, follows.handlers⟩
  | log call =>
    unfold Logging.step submit
    dsimp only
    -- What is written and what is known may change, but nothing that a configuration sets.
    split <;> split <;> exact ⟨follows.level, follows.propagates, follows.handlers⟩

theorem Follows.run (follows : Follows logging configuration) {events : List Event}
    (quiet : ∀ event ∈ events, event.configures = false) : Follows (logging.run events) configuration := by
  induction events generalizing logging with
  | nil => exact follows
  | cons event events ih =>
    obtain ⟨first, rest⟩ := List.forall_mem_cons.mp quiet
    exact ih (follows.step first) rest

theorem run_follows (start : Logging) (earlier : List Event) (configuration : Configuration) {later : List Event}
    (quiet : ∀ event ∈ later, event.configures = false) :
    Follows (start.run (earlier ++ .configure configuration :: later)) configuration := by
  rw [Logging.run, List.foldl_append, List.foldl_cons]
  exact (configure_follows _ configuration).run quiet

/-! ## What a record leaves -/

theorem Configuration.level_positive (configuration : Configuration) : 0 < configuration.level.severity := by
  rw [level]
  split <;> decide

theorem Configuration.isEnabled_level (configuration : Configuration) (level : Level) :
    isEnabled level (some configuration.level) = decide (configuration.level.severity ≤ level.severity) := by
  have positive := configuration.level_positive
  rw [Bool.eq_iff_iff]
  simp only [isEnabled, reaches, Option.getD_some, Bool.and_eq_true, decide_eq_true_eq]
  omega

theorem Configuration.accepts_handler (configuration : Configuration) {sink : Sink} (member : sink ∈ configuration.sinks)
    {level : Level} (severe : configuration.level.severity ≤ level.severity) :
    (configuration.handler sink).accepts level = true := by
  have somewhere : sink ≠ .nowhere := by
    rintro rfl
    simp [sinks] at member
  simp [handler, Handler.accepts, reaches, somewhere, severe]

theorem Configuration.sinks_nodup (configuration : Configuration) : configuration.sinks.Nodup := by
  rw [sinks]
  cases configuration.file <;> simp

/-- Sinks that are apart get the same lines each. -/
theorem lines_sent {sinks : List Sink} (distinct : sinks.Nodup) (lines : List Line) (sink : Sink) :
    ((sinks.flatMap fun sink => lines.map fun line => (sink, line)).filter (·.1 == sink)).map (·.2) =
      if sink ∈ sinks then lines else [] := by
  induction sinks with
  | nil => rfl
  | cons first rest ih =>
    obtain ⟨fresh, distinct⟩ := List.nodup_cons.mp distinct
    rw [List.flatMap_cons, List.filter_append, List.map_append, ih distinct]
    by_cases same : first = sink
    · subst same
      simp [List.filter_map, Function.comp_def, fresh]
    · simp [List.filter_map, Function.comp_def, same, Ne.symm same]

/-- On a logger that belongs to the library a record is either handled or left alone. -/
theorem submit_of_belongs {call : Call} (belongs : Belongs logging call.component) :
    logging.submit call =
      if isEnabled call.level logging.level then (logging.obtain call.component).handle call
      else logging.obtain call.component :=
  if_pos belongs

theorem Follows.accepting (follows : Follows logging configuration) {level : Level}
    (severe : configuration.level.severity ≤ level.severity) :
    (logging.handlers.filter (·.accepts level)).map (·.sink) = configuration.sinks := by
  have all : configuration.sinks.filter (fun sink => (configuration.handler sink).accepts level) =
      configuration.sinks := by
    apply List.filter_eq_self.mpr
    intro sink member
    exact configuration.accepts_handler member severe
  rw [follows.handlers, List.filter_map, Function.comp_def, all, List.map_map]
  exact List.map_id _

/-- A record that is severe enough is sent to each sink of the configuration. -/
theorem Follows.submit (follows : Follows logging configuration) {call : Call} (belongs : Belongs logging call.component) :
    (logging.submit call).passedOn = logging.passedOn ∧
      (logging.submit call).written = logging.written ++
        if configuration.level.severity ≤ call.level.severity then
          configuration.sinks.flatMap fun sink => call.lines.map fun line => (sink, line)
        else [] := by
  rw [submit_of_belongs belongs, follows.level, configuration.isEnabled_level]
  by_cases severe : configuration.level.severity ≤ call.level.severity
  · have propagates : (logging.obtain call.component).propagates = false := follows.propagates
    have sinks : ((logging.obtain call.component).handlers.filter (·.accepts call.level)).map (·.sink) =
        configuration.sinks := follows.accepting severe
    simp only [severe, decide_true, ite_true, handle, sinks, propagates]
    exact ⟨rfl, rfl⟩
  · simp only [severe, decide_false, ite_false, List.append_nil]
    exact ⟨rfl, rfl⟩

theorem Follows.linesOf_submit (follows : Follows logging configuration) {call : Call}
    (belongs : Belongs logging call.component) (sink : Sink) :
    (logging.submit call).linesOf sink = logging.linesOf sink ++
      if sink ∈ configuration.sinks ∧ configuration.level.severity ≤ call.level.severity then call.lines else [] := by
  rw [linesOf, (follows.submit belongs).2, List.filter_append, List.map_append, linesOf]
  by_cases severe : configuration.level.severity ≤ call.level.severity
  · simp only [severe, ite_true, and_true, lines_sent configuration.sinks_nodup]
  · simp only [severe, ite_false, and_false, List.filter_nil, List.map_nil]

end Following

/-- After any history, a record on a logger of the library is written as the latest configuration says: once to its stream,
once to its file if there is one, and to no other sink, provided that it is severe enough and that its arguments fit its
message; else it is written nowhere. The loggers around are given nothing. Each component whose name does not begin with
a dot has such a logger. -/
theorem submit_configured (start : Logging) (earlier later : List Event) (configuration : Configuration) (call : Call)
    (quiet : ∀ event ∈ later, event.configures = false) :
    let before := start.run (earlier ++ .configure configuration :: later)
    let after := before.submit call
    (call.component.toList.head? ≠ some '.' → Belongs before call.component) ∧
      (Belongs before call.component → after.passedOn = before.passedOn ∧
        ∀ sink, after.linesOf sink = before.linesOf sink ++
          if sink ∈ configuration.sinks ∧ configuration.level.severity ≤ call.level.severity then call.lines else []) := by
  intro before after
  have follows : Follows before configuration := run_follows start earlier configuration quiet
  refine ⟨belongs_of_plain before, ?_⟩
  intro belongs
  exact ⟨(follows.submit belongs).1, follows.linesOf_submit belongs⟩

/-- Two configurations, of which the second one has a file. -/
theorem submit_configured_twice :
    let earlier : List Event := [.configure ⟨true, 0, none⟩, .log ⟨.debug, "cache", some "Cache miss"⟩]
    let configuration : Configuration := ⟨false, 1, some "analysis.log"⟩
    let before := Logging.run {} (earlier ++ .configure configuration :: [.obtain "graph"])
    let after := before.submit ⟨.info, "graph", some "Built graph with 3 nodes"⟩
    after.linesOf (.stream 0) = [⟨.debug, "devarchitect.cache", "Cache miss"⟩] ∧
      after.linesOf (.stream 1) = [⟨.info, "devarchitect.graph", "Built graph with 3 nodes"⟩] ∧
      after.linesOf (.file "analysis.log") = after.linesOf (.stream 1) ∧ after.passedOn = [] := by
  intro earlier configuration before after
  obtain ⟨plain, goes⟩ := submit_configured {} earlier [.obtain "graph"] configuration
    ⟨.info, "graph", some "Built graph with 3 nodes"⟩ (by decide)
  obtain ⟨silent, lines⟩ := goes (plain (by decide))
  have severe : configuration.level.severity ≤ Level.info.severity := by decide
  refine ⟨?_, ?_, ?_, ?_⟩
  · rw [lines, if_neg (by decide)]
    decide +kernel
  · rw [lines, if_pos ⟨by decide, severe⟩]
    decide +kernel
  · rw [lines, lines, if_pos ⟨by decide, severe⟩, if_pos ⟨by decide, severe⟩]
    decide +kernel
  · rw [silent]
    decide +kernel

/-- A record whose arguments do not fit its message is not written, and one on a logger outside the library's is given to
the loggers around instead. -/
theorem not_submit_configured_once :
    let before := Logging.configure {} false 0 none
    (before.log .info "graph" "%d items" [.text "three"]).linesOf (.stream 0) = [] ∧
      (before.log .error ".x" "m" []).linesOf (.stream 0) = [] ∧
      (before.log .error ".x" "m" []).passedOn = [⟨.error, ".x", some "m"⟩] := by
  decide +kernel

end Surveyor.Logging
