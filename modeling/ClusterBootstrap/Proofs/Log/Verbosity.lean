import ClusterBootstrap.Command.Invocation

/-!
# What is shown when no filter is asked for

Without a filter of its own, a call shows its log up to one level, which only the verbosity decides: progress
and what matters more, or warnings and errors.  Nothing else about a call depends on its verbosity.
-/

namespace ClusterBootstrap

/-! ## Filters of one level -/

namespace Log.Filter

theorem detail_pos (level : Level) : 0 < level.detail := by
  cases level <;> decide

theorem general_upTo (level : Level) (path : String) :
    (upTo level).general path = [{ detail := level.detail }] := rfl

/-- A filter of one level describes no span, so that no span makes it show more. -/
theorem detailWithin_upTo (level : Level) (span : Span) : (upTo level).detailWithin span = 0 := rfl

/-- A filter of one level shows the records that matter as much, whatever their source and span. -/
theorem shows_upTo (level : Level) (r : LogRecord) :
    (upTo level).shows r = decide (r.level.detail ≤ level.detail) := by
  have hWithin : ((upTo level).spanOf r).any
      (fun span => r.level.detail ≤ (upTo level).detailWithin span) = false := by
    have hNotZero : ¬ r.level.detail ≤ 0 := Nat.not_le_of_gt (detail_pos r.level)
    simp only [detailWithin_upTo, hNotZero, decide_false]
    cases (upTo level).spanOf r <;> rfl
  unfold shows
  rw [hWithin, Bool.or_false, general_upTo]
  rfl

theorem lines_upTo (level : Level) (records : List LogRecord) :
    (upTo level).lines records =
      (records.filter fun r => r.level.detail ≤ level.detail).map (upTo level).line := by
  have hShows : (upTo level).shows = fun r => decide (r.level.detail ≤ level.detail) :=
    funext (shows_upTo level)
  rw [lines, hShows]

end Log.Filter

/-! ## Calls without a filter -/

namespace Invocation

open Log

variable {argv : List String} {args : Arguments} {files : Settings.Files}
  {environment : List (String × String)} {network : Net.Network}

/-- The filter of a call that asks for none, or for one that cannot be read. -/
theorem shown_of_unfiltered (hArgs : Arguments.parse argv = .ok args)
    (hNone : (environment.lookup filterVariable).bind Filter.parse? = none) :
    (ofArguments argv files environment network).shown =
      (Filter.upTo (if args.verbose then .info else .warn)).lines
        (args.perform files environment network .unlimited).log := by
  rw [ofArguments, hArgs]
  dsimp only
  rw [Filter.choose, hNone, Option.getD_none]

/-- A verbose call shows its progress: every record that is notable, in order, and no other. -/
theorem shown_of_verbose (hArgs : Arguments.parse argv = .ok args)
    (hNone : (environment.lookup filterVariable).bind Filter.parse? = none)
    (hVerbose : args.verbose = true) :
    (ofArguments argv files environment network).shown =
      ((args.perform files environment network .unlimited).log.filter LogRecord.isNotable).map
        (Filter.upTo .info).line := by
  rw [shown_of_unfiltered hArgs hNone, if_pos hVerbose, Filter.lines_upTo]
  rfl

/-- A call that is not verbose shows its warnings and errors only. -/
theorem shown_of_quiet (hArgs : Arguments.parse argv = .ok args)
    (hNone : (environment.lookup filterVariable).bind Filter.parse? = none)
    (hQuiet : args.verbose = false) :
    (ofArguments argv files environment network).shown =
      ((args.perform files environment network .unlimited).log.filter
        fun r => r.level = .error || r.level = .warn).map (Filter.upTo .warn).line := by
  have hLevel (level : Level) :
      decide (level.detail ≤ Level.warn.detail) = (level = .error || level = .warn) := by
    cases level <;> rfl
  rw [shown_of_unfiltered hArgs hNone, hQuiet, Filter.lines_upTo]
  simp only [Bool.false_eq_true, if_false, hLevel]

/-- Two calls that differ in their verbosity alone differ in what they show alone. -/
theorem same_but_shown {other : List String} {verbose : Bool}
    (hArgs : Arguments.parse argv = .ok args)
    (hOther : Arguments.parse other = .ok { args with verbose }) :
    let call := ofArguments argv files environment network
    ofArguments other files environment network =
      { call with shown := (ofArguments other files environment network).shown } := by
  intro call
  -- neither the settings nor the run ever look at the verbosity
  have hPerform : { args with verbose }.perform = args.perform := rfl
  simp only [call, ofArguments, hArgs, hOther, hPerform]

end Invocation

end ClusterBootstrap
