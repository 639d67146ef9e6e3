import AppBundle.Proofs.Resolution.Failure
import AppBundle.Proofs.Resolution.Partition
import AppBundle.Proofs.Token.Occurrences

/-! # What resolving reports

Resolving for a targeted platform reports its beginning, the choice of every interpreter, a warning for
every token that refers to an interpreter without a distribution, and its end if there is a resolution. The
warnings about a text come before the text is expanded, so that a text that can not be expanded is the last
one with warnings, and all its tokens are reported. In a resolution the reported tokens stand as they were.
-/

namespace AppBundle

namespace Resolution

/-- The event that ends a resolving with a resolution. -/
def closing : Except BundleError Resolution → List Event
  | .ok resolution =>
    [.resolved resolution.application resolution.platform resolution.eager.length
      resolution.onDemand.length resolution.unavailable.length]
  | .error _ => []

theorem levels_closing (outcome : Except BundleError Resolution) :
    (closing outcome).map Event.level = if outcome.isOk then [.info] else [] := by
  cases outcome <;> rfl

theorem level_reported (platform : Platform) (interpreter : Interpreter) :
    (reported platform interpreter).level = .debug := by
  unfold reported
  split <;> rfl

end Resolution

namespace Application

/-- An id is that of an interpreter without a distribution for a platform. -/
def Misses (app : Application) (platform : Platform) (id : String) : Prop :=
  ∃ interpreter ∈ app.interpreters,
    interpreter.id.text = id ∧ interpreter.distribution? platform = none

instance (app : Application) (platform : Platform) (id : String) : Decidable (app.Misses platform id) :=
  inferInstanceAs (Decidable (∃ interpreter ∈ app.interpreters, _))

/-- The warnings about a text: one for each of its tokens that refers to an interpreter without a
distribution. -/
def warnings (app : Application) (platform : Platform) (text : String) : List Event :=
  ((Token.occurrences text).filter fun token => app.Misses platform token.id).map fun token =>
    .unavailableReference text token.id platform

/-- The texts that are visited: those up to the first one that can not be expanded, with that one. -/
def visitedOn (app : Application) (platform : Platform) : List String :=
  throughFailure (Distribution.expandAmong (app.availableOn platform)) app.texts

/-- A text is expanded so that the tokens that refer to interpreters without a distribution stand as they
were, between the expansions of what is around them. -/
def KeepsMissing (app : Application) (platform : Platform) (text expanded : String) : Prop :=
  ∀ (before behind : String) (token : Token), token.WellFormed → app.Misses platform token.id →
    text = before ++ ("#\x7b" ++ token.inner ++ "\x7d") ++ behind →
    ∃ front back, Distribution.expandAmong (app.availableOn platform) before = .ok front ∧
      Distribution.expandAmong (app.availableOn platform) behind = .ok back ∧
      expanded = front ++ ("#\x7b" ++ token.inner ++ "\x7d") ++ back

variable {app : Application} {platform : Platform}

theorem any_unavailableOn_iff {id : String} :
    (app.unavailableOn platform).any (·.text = id) = true ↔ app.Misses platform id := by
  rw [List.any_eq_true, unavailableOn]
  simp only [List.mem_filterMap, decide_eq_true_eq]
  constructor
  · rintro ⟨_, ⟨interpreter, member, listed⟩, rfl⟩
    split at listed
    · next absent =>
      cases listed
      exact ⟨interpreter, member, rfl, Option.isNone_iff_eq_none.1 absent⟩
    · cases listed
  · rintro ⟨interpreter, member, rfl, absent⟩
    exact ⟨interpreter.id, ⟨interpreter, member, by rw [absent]; rfl⟩, rfl⟩

/-- A text is expanded against the available distributions after the warnings about it. -/
theorem expandText_eq (text : String) :
    Resolution.expandText platform (app.availableOn platform) (app.unavailableOn platform) text =
      ⟨app.warnings platform text,
        (Distribution.expandAmong (app.availableOn platform) text).mapError .model⟩ := by
  have selected : (fun token : Token => (app.unavailableOn platform).any (·.text = token.id)) =
      fun token => decide (app.Misses platform token.id) := by
    funext token
    rw [Bool.eq_iff_iff, any_unavailableOn_iff, decide_eq_true_iff]
  rw [Resolution.expandText_eq, Resolution.reportUnavailable_eq, selected, warnings,
    Token.scan_eq_occurrences]

/-- Going through the texts warns about those that are visited. -/
theorem events_mapM_texts :
    (app.texts.mapM (Resolution.expandText platform (app.availableOn platform)
      (app.unavailableOn platform))).events =
        (app.visitedOn platform).flatMap (app.warnings platform) := by
  rw [Logged.events_mapM, visitedOn]
  simp only [expandText_eq, throughFailure_mapError]

/-- The events of resolving a consistent application for a platform that it targets. -/
theorem Consistent.events_resolve (consistent : app.Consistent) (targeted : platform ∈ app.platforms) :
    (app.resolve platform).events =
      .resolving app.name platform :: app.interpreters.map (Resolution.reported platform) ++
        (app.visitedOn platform).flatMap (app.warnings platform) ++
        Resolution.closing (app.resolve platform).result := by
  rw [consistent.resolve_eq targeted]
  simp only [rewriting_eq, Logged.forM_emit, Logged.events_bind, Logged.result_bind, Logged.result_emit,
    Logged.events_emit, Except.ok_bind, events_mapM_texts]
  -- What is left to report is the end, after the last text and if there is no error.
  cases (app.texts.mapM (Resolution.expandText platform (app.availableOn platform)
    (app.unavailableOn platform))).result with
  | ok texts => simp [Resolution.closing, resolutionOn]
  | error error => simp [Resolution.closing, bind, Except.bind]

theorem level_of_mem_warnings {text : String} {event : Event} (member : event ∈ app.warnings platform text) :
    event.level = .warn := by
  obtain ⟨token, -, rfl⟩ := List.mem_map.1 member
  rfl

/-- One line of information comes first, then one of detail for each interpreter, then the warnings, and
last, if there is a resolution, one line of information. -/
theorem Consistent.levels_resolve (consistent : app.Consistent) (targeted : platform ∈ app.platforms) :
    (app.resolve platform).events.map Event.level =
      .info :: List.replicate app.interpreters.length .debug ++
        List.replicate ((app.visitedOn platform).flatMap (app.warnings platform)).length .warn ++
        if (app.resolve platform).result.isOk then [.info] else [] := by
  have choices : (app.interpreters.map (Resolution.reported platform)).map Event.level =
      List.replicate app.interpreters.length .debug := by
    rw [List.map_map, List.map_eq_replicate_iff]
    intro interpreter _
    exact Resolution.level_reported platform interpreter
  have warned : ((app.visitedOn platform).flatMap (app.warnings platform)).map Event.level =
      List.replicate ((app.visitedOn platform).flatMap (app.warnings platform)).length .warn := by
    rw [List.map_eq_replicate_iff]
    intro event member
    obtain ⟨text, -, member⟩ := List.mem_flatMap.1 member
    exact level_of_mem_warnings member
  rw [consistent.events_resolve targeted, List.map_append, List.map_append, List.map_cons, choices,
    warned, Resolution.levels_closing]
  rfl

/-- If resolving fails then on the last text that is visited, and with its error. -/
theorem Consistent.visitedOn_of_resolve_eq_error (consistent : app.Consistent)
    (targeted : platform ∈ app.platforms) {error : BundleError}
    (failed : (app.resolve platform).result = .error error) :
    ∃ before text after, app.texts = before ++ text :: after ∧
      app.visitedOn platform = before ++ [text] ∧
      (∀ other ∈ before, ∃ expanded,
        Distribution.expandAmong (app.availableOn platform) other = .ok expanded) ∧
      ∃ cause, Distribution.expandAmong (app.availableOn platform) text = .error cause ∧
        .model cause = error := by
  rw [consistent.result_resolve targeted] at failed
  obtain ⟨before, text, after, same, passes, fails⟩ := rewriting_eq_error_iff.1 failed
  simp only [Except.mapError_eq_ok_iff] at passes
  obtain ⟨cause, failsText, worded⟩ := Except.mapError_eq_error_iff.1 fails
  refine ⟨before, text, after, same, ?_, passes, cause, failsText, worded⟩
  rw [visitedOn, same, throughFailure_append_cons passes failsText]

/-- The available distributions do not have the id of an interpreter without one. -/
theorem Consistent.expandTokenAmong_of_misses (consistent : app.Consistent)
    (targeted : platform ∈ app.platforms) {token : Token} (missing : app.Misses platform token.id) :
    Distribution.expandTokenAmong (app.availableOn platform) token = .ok none := by
  obtain ⟨interpreter, member, same, absent⟩ := missing
  apply Distribution.expandTokenAmong_of_forall_ne
  intro dist available clash
  obtain ⟨other, otherMember, present⟩ := mem_availableOn_iff.1 available
  have own := consistent.own_id targeted other otherMember dist present
  have ids : other.id = interpreter.id :=
    own.symm.trans (Identifier.text_inj (clash.symm.trans same.symm))
  rw [List.inj_on_of_nodup_map consistent.interpreters otherMember member ids, absent] at present
  cases present

end Application

/-- The events of resolving a built application for any platform. Nothing is reported on a platform that is
not targeted. On one that is targeted the beginning is reported, then the choice of every interpreter, then
a warning for every token that refers to an interpreter without a distribution, in the order of the texts
up to the first one that can not be expanded and of the tokens in a text, and then the end, with the numbers
of what was chosen, if there is a resolution. In a resolution every token that was warned of stands as it
was. -/
theorem ApplicationDraft.resolve_log (draft : ApplicationDraft) (app : Application) (platform : Platform)
    (built : draft.build.result = .ok app) :
    (platform ∉ app.platforms → (app.resolve platform).events = []) ∧
    (platform ∈ app.platforms →
      (app.resolve platform).events =
        .resolving app.name platform :: app.interpreters.map (Resolution.reported platform) ++
          (app.visitedOn platform).flatMap (app.warnings platform) ++
          Resolution.closing (app.resolve platform).result ∧
      (app.resolve platform).events.map Event.level =
        .info :: List.replicate app.interpreters.length .debug ++
          List.replicate ((app.visitedOn platform).flatMap (app.warnings platform)).length .warn ++
          (if (app.resolve platform).result.isOk then [.info] else []) ∧
      (∀ error, (app.resolve platform).result = .error error →
        ∃ before text after, app.texts = before ++ text :: after ∧
          app.visitedOn platform = before ++ [text] ∧
          (∀ other ∈ before, ∃ expanded,
            Distribution.expandAmong (app.availableOn platform) other = .ok expanded) ∧
          ∃ cause, Distribution.expandAmong (app.availableOn platform) text = .error cause ∧
            .model cause = error) ∧
      ∀ resolution, (app.resolve platform).result = .ok resolution →
        app.visitedOn platform = app.texts ∧
          List.Forall₂ (app.KeepsMissing platform) app.texts resolution.texts) := by
  obtain ⟨-, consistent⟩ := build_eq_ok_iff.1 built
  constructor
  · intro untargeted
    rw [Application.resolve_eq_of_not_targeted untargeted, Logged.events_ofExcept]
  · intro targeted
    refine ⟨consistent.events_resolve targeted, consistent.levels_resolve targeted, ?_, ?_⟩
    · intro error failed
      exact consistent.visitedOn_of_resolve_eq_error targeted failed
    · intro resolution resolved
      obtain ⟨-, available, -, expanded⟩ := consistent.resolve_eq_ok resolved
      rw [available] at expanded
      constructor
      · apply throughFailure_eq_self
        intro text member
        obtain ⟨result, -, done⟩ := exists_mem_of_forall₂ expanded.flip member
        exact ⟨result, done⟩
      · apply expanded.imp
        intro text result done before behind token formed missing same
        rw [same] at done
        have declined := consistent.expandTokenAmong_of_misses targeted missing
        have parts := Distribution.exists_of_expandAmong_eq_ok formed declined done
        simpa only [Option.getD_none] using parts

namespace ApplicationDraft

/-- The first text of the command has two tokens without a distribution, one of them behind an opening that
is not closed. In the second text such a token follows one that can not be expanded. -/
theorem log_withTools :
    let js : Identifier := ⟨"js", by decide⟩
    let go : Identifier := ⟨"go", by decide⟩
    let draft := { withTools [tool js false, absentTool go true] with
      commands := [{ Command.ofExe "#\x7bgo\x7d #\x7b#\x7bjs\x7d#\x7b#\x7bgo:doc\x7d" with
        args := ["#\x7bjs:npm\x7d#\x7bgo:\x7d#\x7bgo\x7d", "#\x7bgo\x7d"] }] }
    draft.build.result = .ok draft.toApplication ∧ .linuxX86_64 ∈ draft.toApplication.platforms ∧
      (draft.toApplication.resolve .linuxX86_64).result =
        .error (.model (.unknownPlaceholder "js" "npm")) ∧
      (draft.toApplication.resolve .linuxX86_64).events = [
        .resolving "demo" .linuxX86_64,
        .chosen js "u" false,
        .noDistribution go .linuxX86_64,
        .unavailableReference "#\x7bgo\x7d #\x7b#\x7bjs\x7d#\x7b#\x7bgo:doc\x7d" "go" .linuxX86_64,
        .unavailableReference "#\x7bgo\x7d #\x7b#\x7bjs\x7d#\x7b#\x7bgo:doc\x7d" "go" .linuxX86_64,
        .unavailableReference "#\x7bjs:npm\x7d#\x7bgo:\x7d#\x7bgo\x7d" "go" .linuxX86_64] := by
  intro js go draft
  have built : draft.build.result = .ok draft.toApplication := by rfl
  have targeted : .linuxX86_64 ∈ draft.toApplication.platforms := by decide
  have failed : (draft.toApplication.resolve .linuxX86_64).result =
      .error (.model (.unknownPlaceholder "js" "npm")) := by cbv
  obtain ⟨-, reported⟩ := resolve_log draft draft.toApplication .linuxX86_64 built
  obtain ⟨events, -, -, -⟩ := reported targeted
  refine ⟨built, targeted, failed, ?_⟩
  rw [events, failed]
  cbv

end ApplicationDraft

end AppBundle
