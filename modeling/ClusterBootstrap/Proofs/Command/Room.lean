import ClusterBootstrap.Command.Outcome
import ClusterBootstrap.Proofs.Output

/-!
# Commands whose output runs full

An output may have less room than a command has to say.  It then holds the beginning of what the command
says elsewhere, whichever piece that ends in, and the command fails even if its run has reached its goal.
Nothing else depends on the room.
-/

namespace ClusterBootstrap

open Json (bytesOf)
open Net
open Output (filled holding)

/-! ## Printing a report -/

/-- What the printing of a report comes to on an output that accepts `n` bytes in all. -/
structure PrintedWithin (n : Nat) (report : Report) : Prop where
  /-- Elsewhere the report is printed whole. -/
  whole : (Output.putLines report.lines).run .unlimited = (.ok (), holding (bytesOf report.text))
  written : ((Output.putLines report.lines).run (.limited n)).2.written =
    (bytesOf report.text).take n
  ok_iff : ((Output.putLines report.lines).run (.limited n)).1 = .ok () ↔
    (bytesOf report.text).length ≤ n
  full_iff : ((Output.putLines report.lines).run (.limited n)).1 = .error .full ↔
    n < (bytesOf report.text).length
  /-- Where the text is cut into pieces does not matter. -/
  pieces : ∀ pieces : List String, String.join pieces = report.text →
    (pieces.forM Output.put).run (.limited n) = (Output.putLines report.lines).run (.limited n)
  /-- After a refusal nothing more is taken. -/
  closed : n < (bytesOf report.text).length → ∀ lines : List String,
    ((Output.putLines lines).run ((Output.putLines report.lines).run (.limited n)).2).2 =
      ((Output.putLines report.lines).run (.limited n)).2

theorem printedWithin (n : Nat) (report : Report) : PrintedWithin n report := by
  have hLimited := Output.run_putLines_limited report.lines n
  constructor
  case whole => exact Output.run_putLines report.lines []
  case written => rw [hLimited]; rfl
  case ok_iff =>
    rw [hLimited]
    exact Output.ending_eq_ok_iff
  case full_iff =>
    rw [hLimited]
    exact Output.ending_eq_full_iff
  case pieces =>
    intro pieces hJoin
    -- both ways of writing come to the same text, and only the text counts
    rw [hLimited, Output.limited_eq_filled, Output.run_forM_filled _ (Nat.zero_le n),
      List.nil_append, hJoin]
    rfl
  case closed =>
    intro hCut lines
    rw [hLimited]
    exact Output.run_putLines_of_full lines (Nat.le_of_lt hCut)

/-! ## Carrying out a command -/

/-- The command makes a run, and that run reaches its goal. -/
def Arguments.Reaches (args : Arguments) (files : Settings.Files)
    (environment : List (String × String)) (network : Network) : Prop :=
  ∃ settings progress, Settings.load args files environment = .ok settings ∧
    connect settings network = .ok progress ∧ progress.report.phase = .done

/-- What a command leaves where its output accepts `n` bytes in all, beside what it leaves where there is
room for everything. -/
structure CutOff (n : Nat) (reaches : Prop) (whole cut : CommandOutcome) : Prop where
  written : cut.output.written = whole.output.written.take n
  exitCode : cut.exitCode = 0 ∨ cut.exitCode = 1
  zero_iff : cut.exitCode = 0 ↔ reaches ∧ whole.output.written.length ≤ n
  log : cut.log = whole.log
  network : cut.network = whole.network

/-- Where nothing but a failure is told, the room cuts off its text. -/
theorem cutOff_failed (n : Nat) (message : String) (log : List LogRecord) (network : Network)
    {reaches : Prop} (hNot : ¬ reaches) :
    CutOff n reaches (CommandOutcome.failed message .unlimited log network)
      (CommandOutcome.failed message (.limited n) log network) := by
  have hWhole := Output.run_putLines (CommandOutcome.failureLines message) []
  have hCut := Output.run_putLines_limited (CommandOutcome.failureLines message) n
  constructor
  case written =>
    show ((Output.putLines (CommandOutcome.failureLines message)).run (.limited n)).2.written =
      ((Output.putLines (CommandOutcome.failureLines message)).run (holding [])).2.written.take n
    rw [hWhole, hCut]
    rfl
  case exitCode => exact .inr rfl
  case zero_iff =>
    refine iff_of_false Nat.one_ne_zero ?_
    rintro ⟨hReaches, -⟩
    exact hNot hReaches
  case log => rfl
  case network => rfl

/-- A report that is cut off is told as a failure, which finds no room. -/
theorem reported_limited (n : Nat) (report : Report) (log : List LogRecord) (network : Network) :
    CommandOutcome.reported report (.limited n) log network =
      { exitCode := if (bytesOf report.text).length ≤ n then report.exitCode else 1
        output := filled n (bytesOf report.text), log, network } := by
  have hCut := Output.run_putLines_limited report.lines n
  unfold CommandOutcome.reported
  by_cases hFits : (bytesOf report.text).length ≤ n
  · have hEnding := Output.ending_eq_ok_iff.mpr hFits
    have hPrinted : (Output.putLines report.lines).run (.limited n) =
        (.ok (), filled n (bytesOf report.text)) := hEnding ▸ hCut
    rw [hPrinted, if_pos hFits]
  · have hEnding := Output.ending_eq_full_iff.mpr (Nat.not_le.mp hFits)
    have hPrinted : (Output.putLines report.lines).run (.limited n) =
        (.error .full, filled n (bytesOf report.text)) := hEnding ▸ hCut
    -- the failure of the printing is told to an output that is full by now
    have hClosed := Output.run_putLines_of_full
      (CommandOutcome.failureLines OutputFault.full.text) (Nat.le_of_not_le hFits)
    rw [hPrinted, if_neg hFits]
    simp only [CommandOutcome.failed, hClosed]

theorem reported_unlimited_eq (report : Report) (log : List LogRecord) (network : Network) :
    CommandOutcome.reported report .unlimited log network =
      { exitCode := report.exitCode, output := holding (bytesOf report.text), log, network } := by
  have hWhole : (Output.putLines report.lines).run .unlimited =
      (.ok (), holding (bytesOf report.text)) := Output.run_putLines report.lines []
  rw [CommandOutcome.reported, hWhole]

theorem cutOff_reported (n : Nat) (report : Report) (log : List LogRecord) (network : Network)
    {reaches : Prop} (hReaches : reaches ↔ report.phase = .done) :
    CutOff n reaches (CommandOutcome.reported report .unlimited log network)
      (CommandOutcome.reported report (.limited n) log network) := by
  have hZero : report.exitCode = 0 ↔ report.phase = .done := by
    simp [Report.exitCode, Report.isSuccess]
  rw [reported_limited, reported_unlimited_eq]
  constructor
  case written => rfl
  case exitCode =>
    show (if _ then report.exitCode else 1) = 0 ∨ (if _ then report.exitCode else 1) = 1
    unfold Report.exitCode
    split_ifs <;> simp
  case zero_iff =>
    show (if (bytesOf report.text).length ≤ n then report.exitCode else 1) = 0 ↔
      reaches ∧ (bytesOf report.text).length ≤ n
    rw [hReaches, ← hZero]
    split_ifs with hFits
    · exact (and_iff_left hFits).symm
    · simp [hFits]
  case log => rfl
  case network => rfl

/-- On an output that accepts `n` bytes in all, a report is printed up to its first `n` bytes, and refused if
these are not the whole of it.  A command leaves on such an output the first `n` bytes of what it says where
there is room for everything, and exits with zero exactly if its run has reached its goal and all was said.
That it then tries to tell the failure adds nothing. -/
theorem output_cut_off :
    (∀ (report : Report) (n : Nat), PrintedWithin n report) ∧
      ∀ (args : Arguments) (files : Settings.Files) (environment : List (String × String))
        (network : Network) (n : Nat),
        CutOff n (args.Reaches files environment network)
          (args.perform files environment network .unlimited)
          (args.perform files environment network (.limited n)) := by
  refine ⟨fun report n => printedWithin n report, fun args files environment network n => ?_⟩
  unfold Arguments.Reaches
  -- a command tells of a failure where it makes no run, and prints the report of its run otherwise
  cases hLoad : Settings.load args files environment with
  | error fault =>
    simp only [Arguments.perform, hLoad]
    apply cutOff_failed
    rintro ⟨settings, progress, ⟨⟩, -⟩
  | ok settings =>
    cases hRun : connect settings network with
    | error e =>
      simp only [Arguments.perform, hLoad, hRun]
      apply cutOff_failed
      rintro ⟨_, progress, ⟨⟩, hMade, -⟩
      cases hRun.symm.trans hMade
    | ok progress =>
      simp only [Arguments.perform, hLoad, hRun]
      apply cutOff_reported
      constructor
      · rintro ⟨_, made, ⟨⟩, hMade, hDone⟩
        cases hRun.symm.trans hMade
        exact hDone
      · exact fun hDone => ⟨settings, progress, rfl, hRun, hDone⟩

end ClusterBootstrap
