import ClusterBootstrap.Command.Outcome
import ClusterBootstrap.Proofs.Client.Wording
import ClusterBootstrap.Proofs.Run.Payload

/-!
# The verdict of a command

A command tells how it ended in two ways: by its exit code, and by the last line of its output.  The two
agree, whatever texts the settings and the replies of the control plane put into the output.
-/

namespace ClusterBootstrap

open Net
open Text (EndsOtherwise)

/-! ## Every error of a run is told apart -/

theorem toldApart_fault (fault : SettingsFault) : fault.toError.ToldApart := by
  have hFault : EndsOtherwise fault.text := by
    cases fault with
    | noPort endpoint => exact EndsOtherwise.append (by decide) _
    | emptyHost endpoint => exact EndsOtherwise.append (by decide) _
    | invalidPort endpoint => exact EndsOtherwise.append (by decide) _
    | relativeApiPath path => exact EndsOtherwise.append (by decide) _
    | zeroTimeout => decide
    | noRoles => decide
    | blankRole role =>
      -- a role is shown between quotes
      have hQuote : EndsOtherwise "\"" := by decide
      exact (hQuote.append _).append _
  exact toldApart_of_message (hFault.append _)

theorem toldApart_locate {nodes : List Node} {state : ClusterState} {policy : FallbackPolicy}
    {e : BootstrapError} (hLocation : locate nodes state policy = .error e) : e.ToldApart := by
  have hBracket : EndsOtherwise "]" := by decide
  unfold locate at hLocation
  split at hLocation
  · cases hLocation
  · split at hLocation
    · cases hLocation
      exact toldApart_of_message (by decide)
    · cases hLocation
    · cases hLocation
      exact toldApart_of_message ((hBracket.append _).append _)

theorem toldApart_checkKnown {roles : List String} {state : ClusterState} {e : BootstrapError}
    (hRoles : checkKnown roles state = .error e) : e.ToldApart := by
  have hClose : EndsOtherwise ")" := by decide
  unfold checkKnown at hRoles
  split at hRoles
  · cases hRoles
    exact toldApart_of_message (hClose.append _)
  · cases hRoles

variable {settings : BootstrapSettings} {replies : List Reply}

/-- Whatever the control plane answers, the error of a run is told apart from a success. -/
theorem toldApart_bootstrap {client : Client} {e : BootstrapError}
    (hError : (bootstrap client.plane settings (.ofReplies replies)).report.error = some e) :
    e.ToldApart := by
  obtain ⟨hProbe, hServers, hState⟩ :=
    foldl_after_readCalls client.plane (Network.ofReplies replies)
  have hObstacle (calls : List Call) :
      (calls.foldl client.plane.after (Network.ofReplies replies)).obstacle = none :=
    obstacle_foldl_after calls
  obtain ⟨result, p, hCourse⟩ := exists_course client.plane settings (.ofReplies replies)
  rw [hCourse.bootstrap_eq] at hError
  cases hCourse with
  | refused hFault =>
    cases hError
    exact toldApart_fault _
  | unreachable hValid hAnswer =>
    cases hError
    rw [probed_plane] at hAnswer
    exact toldApart_probe rfl hAnswer
  | unlisted hProbed hAnswer =>
    cases hError
    rw [listed_plane, ← hProbe] at hAnswer
    exact toldApart_servers (hObstacle _) hAnswer
  | unobserved hListed hAnswer =>
    cases hError
    rw [observed_plane, ← hServers] at hAnswer
    exact toldApart_clusterState (hObstacle _) hAnswer
  | unlocated hObserved hLocation =>
    cases hError
    exact toldApart_locate hLocation
  | unknownRole hChosen hRoles =>
    cases hError
    exact toldApart_checkKnown hRoles
  | unanswered hRequested hAnswer =>
    cases hError
    rw [assigned_plane, ← hState] at hAnswer
    exact toldApart_assign (hObstacle _) hAnswer
  | rejected hRequested hAnswer hRejected =>
    cases hError
    exact toldApart_rejected _ _ _
  | completed hCompletes => cases hError

/-- Settings that lead to no run are refused with a message of their own. -/
theorem toldApart_connect {network : Network} {e : BootstrapError}
    (hRefused : connect settings network = .error e) :
    e.ToldApart ∧ e.payload? = none := by
  -- the settings, the settings of the client once more, and its header are checked in this order
  rcases bind_eq_error_iff.mp hRefused with hChecked | ⟨_, -, hClient⟩
  · obtain ⟨fault, -, rfl⟩ := mapError_eq_error_iff.mp hChecked
    exact ⟨toldApart_fault fault, rfl⟩
  · rcases bind_eq_error_iff.mp hClient with hMade | ⟨client, -, hRun⟩
    · rcases bind_eq_error_iff.mp hMade with hChecked | ⟨_, -, hHeader⟩
      · obtain ⟨fault, -, rfl⟩ := mapError_eq_error_iff.mp hChecked
        exact ⟨toldApart_fault fault, rfl⟩
      · split at hHeader
        · cases hHeader
        · cases hHeader
          exact ⟨toldApart_of_message (by decide), rfl⟩
    · cases hRun

/-! ## The printed text -/

/-- A line without breaks that is printed last is the last line of the text. -/
theorem getLast?_lines_unlines (before : List String) {line : String}
    (hUnbroken : '\n' ∉ line.toList) :
    (Text.lines (Report.unlines before ++ (line ++ "\n"))).getLast? = some line := by
  rw [← String.append_assoc, Text.getLast?_lines_append_break]
  unfold Text.stringParts
  induction before with
  | nil =>
    rw [unlines_nil, String.empty_append, Text.parts_of_not_mem hUnbroken]
    simp
  | cons first before ih =>
    -- the parts of what comes later stand behind those of the first line
    have hText : (Report.unlines (first :: before) ++ line).toList =
        first.toList ++ '\n' :: (Report.unlines before ++ line).toList := by
      simp [unlines_cons, String.toList_append]
    rw [hText, Text.parts_append, List.map_append, List.getLast?_append, ih]
    rfl

/-- The last text of a failure is the last one told of its error. -/
theorem getLast?_lines_failureText {e : BootstrapError} (hApart : e.ToldApart) (before : String) :
    (Text.lines (before ++ failureText e)).getLast? ≠ some "success" := by
  unfold BootstrapError.ToldApart BootstrapError.closing at hApart
  unfold failureText
  cases hPayload : e.payload? with
  | none =>
    rw [hPayload] at hApart
    have hEnd := (hApart.append "fail\n").append before
    simpa [String.append_assoc] using hEnd.getLast?_lines_ne
  | some payload =>
    rw [hPayload] at hApart
    have hEnd := (hApart.append ("fail\n" ++ e.message ++ "\n")).append before
    simpa [String.append_assoc] using hEnd.getLast?_lines_ne

/-! ## Every command -/

/-- What a command leaves agrees with the run that it made, or with the refusal to make one. -/
structure Verdict (replies : List Reply) (run : Except BootstrapError (Progress Network))
    (outcome : CommandOutcome) : Prop where
  exitCode : outcome.exitCode = 0 ∨ outcome.exitCode = 1
  zero_iff_done : outcome.exitCode = 0 ↔
    ∃ progress, run = .ok progress ∧ progress.report.phase = .done
  zero_iff_success : outcome.exitCode = 0 ↔
    (Text.lines outcome.output.text).getLast? = some "success"
  /-- Lines that the run has learned stand before the failure. -/
  told : outcome.exitCode = 1 → ∃ e before,
    (run = .error e ∨ ∃ progress, run = .ok progress ∧ progress.report.error = some e) ∧
      outcome.output.text = Report.unlines before ++ failureText e
  refused : ∀ e, run = .error e →
    outcome.network = .ofReplies replies ∧
      outcome.output.text = "fail\n" ++ e.message ++ "\n"

/-- A command whose settings lead to no run sends nothing. -/
theorem verdict_of_refused {e : BootstrapError} (log : List LogRecord)
    (hApart : e.ToldApart) (hPayload : e.payload? = none) :
    Verdict replies (.error e)
      (CommandOutcome.failed e.message .unlimited log (.ofReplies replies)) := by
  have hText : (CommandOutcome.failed e.message .unlimited log
      (.ofReplies replies)).output.text = "fail\n" ++ e.message ++ "\n" := by
    have hPrinted := (Output.run_putLines_unlimited (CommandOutcome.failureLines e.message)).2
    refine hPrinted.trans ?_
    simp [CommandOutcome.failureLines, String.append_assoc]
  have hFailure : "fail\n" ++ e.message ++ "\n" = failureText e := by
    simp [failureText, hPayload]
  have hLast := getLast?_lines_failureText hApart ""
  rw [String.empty_append, ← hFailure, ← hText] at hLast
  have hNotZero : ¬ (CommandOutcome.failed e.message .unlimited log
      (.ofReplies replies)).exitCode = 0 := Nat.one_ne_zero
  constructor
  case exitCode => exact .inr rfl
  case zero_iff_done =>
    refine iff_of_false hNotZero ?_
    rintro ⟨progress, hRun, -⟩
    cases hRun
  case zero_iff_success => exact iff_of_false hNotZero hLast
  case told =>
    intro _
    refine ⟨e, [], .inl rfl, ?_⟩
    rw [hText, unlines_nil, String.empty_append, hFailure]
  case refused =>
    rintro _ ⟨⟩
    exact ⟨rfl, hText⟩

/-- Where there is room, the whole report is printed. -/
theorem reported_unlimited (report : Report) (log : List LogRecord) (network : Network) :
    (CommandOutcome.reported report .unlimited log network).exitCode = report.exitCode ∧
      (CommandOutcome.reported report .unlimited log network).output.text =
        Report.unlines report.lines := by
  obtain ⟨hTaken, hText⟩ := Output.run_putLines_unlimited report.lines
  unfold CommandOutcome.reported
  rcases hPrinted : (Output.putLines report.lines).run .unlimited with ⟨taken, output⟩
  rw [hPrinted] at hTaken hText
  dsimp only at hTaken hText
  subst hTaken
  exact ⟨rfl, hText⟩

theorem verdict_of_done {progress : Progress Network} (log : List LogRecord)
    (hPhase : progress.report.phase = .done) :
    Verdict replies (.ok progress)
      (CommandOutcome.reported progress.report .unlimited log progress.plane) := by
  obtain ⟨hCode, hText⟩ := reported_unlimited progress.report log progress.plane
  have hZero : progress.report.exitCode = 0 := by
    simp [Report.exitCode, Report.isSuccess, hPhase]
  have hLines : progress.report.lines =
      (progress.report.serverLines ++ progress.report.bootstrapLines) ++ ["success"] := by
    simp [Report.lines, Report.outcomeLines, Report.isSuccess, hPhase]
  have hUnbroken : '\n' ∉ "success".toList := by decide
  have hLast := getLast?_lines_unlines
    (progress.report.serverLines ++ progress.report.bootstrapLines) hUnbroken
  rw [hZero] at hCode
  rw [hLines, unlines_append] at hText
  constructor
  case exitCode => exact .inl hCode
  case zero_iff_done => exact iff_of_true hCode ⟨progress, rfl, hPhase⟩
  case zero_iff_success =>
    refine iff_of_true hCode ?_
    rw [hText]
    exact hLast
  case told =>
    intro hOne
    rw [hCode] at hOne
    cases hOne
  case refused =>
    intro e hRun
    cases hRun

theorem verdict_of_failed {progress : Progress Network} {e : BootstrapError}
    (log : List LogRecord) (hPhase : progress.report.phase = .failed)
    (hError : progress.report.error = some e) (hApart : e.ToldApart) :
    Verdict replies (.ok progress)
      (CommandOutcome.reported progress.report .unlimited log progress.plane) := by
  obtain ⟨hCode, hText⟩ := reported_unlimited progress.report log progress.plane
  have hOne : progress.report.exitCode = 1 := by
    simp [Report.exitCode, Report.isSuccess, hPhase]
  rw [hOne] at hCode
  rw [unlines_lines_of_failed hPhase hError] at hText
  have hNotZero : ¬ (CommandOutcome.reported progress.report .unlimited log
      progress.plane).exitCode = 0 := by
    rw [hCode]
    decide
  constructor
  case exitCode => exact .inr hCode
  case zero_iff_done =>
    refine iff_of_false hNotZero ?_
    rintro ⟨_, ⟨⟩, hDone⟩
    rw [hPhase] at hDone
    cases hDone
  case zero_iff_success =>
    refine iff_of_false hNotZero ?_
    rw [hText]
    exact getLast?_lines_failureText hApart _
  case told => exact fun _ => ⟨e, _, .inr ⟨progress, rfl, hError⟩, hText⟩
  case refused =>
    intro e hRun
    cases hRun

/-- With settings that were loaded and with room for its output, a command exits with zero or one.  It
exits with zero exactly when its run has reached its goal, and exactly when the last line of its output is
`success`.  Otherwise its output tells the failure by the line `fail` and the message of the error, and if
the settings are refused, by nothing else and with nothing sent. -/
theorem perform_verdict {args : Arguments} {files : Settings.Files}
    {environment : List (String × String)} (replies : List Reply)
    (hSettings : Settings.load args files environment = .ok settings) :
    Verdict replies (connect settings (.ofReplies replies))
      (args.perform files environment (.ofReplies replies) .unlimited) := by
  simp only [Arguments.perform, hSettings]
  cases hRun : connect settings (.ofReplies replies) with
  | error e =>
    obtain ⟨hApart, hPayload⟩ := toldApart_connect hRun
    exact verdict_of_refused _ hApart hPayload
  | ok progress =>
    obtain ⟨client, -, -, hReport, -⟩ := exists_client_of_connect hRun
    obtain ⟨_, _, hCourse⟩ := exists_course client.plane settings (.ofReplies replies)
    have hCoherent := hCourse.coherent
    rw [← hReport] at hCoherent
    rcases hCoherent.ended with hDone | hFailed
    · exact verdict_of_done _ hDone
    · obtain ⟨e, hError⟩ := Option.isSome_iff_exists.mp (hCoherent.failed_iff_error.mp hFailed)
      have hSame := hError
      rw [hReport] at hSame
      exact verdict_of_failed _ hFailed hError (toldApart_bootstrap hSame)

/-- Without any settings of its own, and with four replies that suit it, a command ends with the line that
tells success. -/
theorem perform_plainReplies :
    Settings.load {} [] [] = .ok .default ∧
      (Text.lines (({} : Arguments).perform [] [] (.ofReplies plainReplies)
        .unlimited).output.text).getLast? = some "success" := by
  have hSettings : Settings.load {} [] [] = .ok .default := by decide +kernel
  have hComputed : (connect .default (.ofReplies plainReplies)).toOption.any
      (fun p => p.report.phase = .done) = true := by
    decide +kernel
  have hVerdict := perform_verdict plainReplies hSettings
  refine ⟨hSettings, hVerdict.zero_iff_success.mp (hVerdict.zero_iff_done.mpr ?_)⟩
  cases hRun : connect .default (.ofReplies plainReplies) with
  | error e =>
    rw [hRun] at hComputed
    cases hComputed
  | ok progress =>
    rw [hRun] at hComputed
    exact ⟨progress, rfl, of_decide_eq_true hComputed⟩

end ClusterBootstrap
