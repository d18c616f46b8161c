import ClusterBootstrap.Run.Progress

/-!
# Phases that are asked for in any order

A run asks for its phases in order.  But each request is judged on its own, by the phase in which it is
made, and so nothing is supposed here about the requests: they may leave phases out, come again, or come
after the end.  Every change that is made leads higher up, and the end is never left.  A run is therefore
done exactly when all the phases ahead of it were asked for in their order before any failure was.
-/

namespace ClusterBootstrap

variable {σ : Type}

namespace Phase

/-! ## One request -/

/-- The place of a phase on the way up.  Both final phases stand at the end of it. -/
def rank : Phase → Nat
  | idle => 0
  | discovering => 1
  | located => 2
  | assigning => 3
  | done | failed => 4

/-- The phases that are ahead on the way to the goal. -/
def ahead : Phase → List Phase
  | idle => [discovering, located, assigning, done]
  | discovering => [located, assigning, done]
  | located => [assigning, done]
  | assigning => [done]
  | done | failed => []

theorem rank_le (phase : Phase) : phase.rank ≤ 4 := by
  cases phase <;> decide

theorem isTerminal_iff {phase : Phase} :
    phase.isTerminal = true ↔ phase = .done ∨ phase = .failed := by
  cases phase <;> decide

theorem rank_lt_of_canAdvanceTo {phase next : Phase} (hAllowed : phase.canAdvanceTo next = true) :
    phase.rank < next.rank := by
  revert hAllowed
  cases phase <;> cases next <;> decide

/-- A phase that is not final goes on to the first of those ahead or to failure, and nowhere else. -/
theorem exists_next {phase : Phase} (hPhase : phase.isTerminal = false) :
    ∃ step, phase.ahead = step :: step.ahead ∧
      ∀ next, phase.canAdvanceTo next = true ↔ next = step ∨ next = .failed := by
  cases phase with
  | idle => exact ⟨.discovering, rfl, fun next => by cases next <;> decide⟩
  | discovering => exact ⟨.located, rfl, fun next => by cases next <;> decide⟩
  | located => exact ⟨.assigning, rfl, fun next => by cases next <;> decide⟩
  | assigning => exact ⟨.done, rfl, fun next => by cases next <;> decide⟩
  | done => cases hPhase
  | failed => cases hPhase

theorem advance_of_allowed {phase next : Phase} (hAllowed : phase.canAdvanceTo next = true) :
    phase.advance next = next :=
  if_pos hAllowed

theorem advance_of_not_allowed {phase next : Phase} (hRefused : ¬ phase.canAdvanceTo next = true) :
    phase.advance next = phase :=
  if_neg hRefused

theorem advance_of_isTerminal {phase : Phase} (hPhase : phase.isTerminal = true) (next : Phase) :
    phase.advance next = phase := by
  rcases isTerminal_iff.mp hPhase with rfl | rfl
  · cases next <;> rfl
  · cases next <;> rfl

/-- After a request for failure a run has come to its end, if it had not before. -/
theorem isTerminal_advance_failed (phase : Phase) : (phase.advance .failed).isTerminal = true := by
  cases phase <;> rfl

theorem advance_failed {phase : Phase} (hPhase : phase.isTerminal = false) :
    phase.advance .failed = .failed := by
  obtain ⟨_, -, hAllowed⟩ := exists_next hPhase
  exact advance_of_allowed ((hAllowed .failed).mpr (.inr rfl))

theorem advance_ne_failed {phase next : Phase} (hPhase : phase ≠ .failed) (hNext : next ≠ .failed) :
    phase.advance next ≠ .failed := by
  unfold advance
  split
  · exact hNext
  · exact hPhase

/-- Requests that hold all the phases ahead go on to hold those that are left after the first request. -/
theorem ahead_sublist_cons_iff {phase next : Phase} (hPhase : phase.isTerminal = false)
    (hNext : next ≠ .failed) (requests : List Phase) :
    phase.ahead.Sublist (next :: requests) ↔ (phase.advance next).ahead.Sublist requests := by
  obtain ⟨step, hAhead, hAllowed⟩ := exists_next hPhase
  by_cases hStep : next = step
  · subst hStep
    rw [advance_of_allowed ((hAllowed next).mpr (.inl rfl)), hAhead, List.cons_sublist_cons]
  · -- the request changes nothing, and the first of the phases ahead is still to be asked for
    have hRefused : ¬ phase.canAdvanceTo next = true := by
      rw [hAllowed next]
      exact not_or.mpr ⟨hStep, hNext⟩
    rw [advance_of_not_allowed hRefused, hAhead]
    constructor
    · intro hHeld
      cases hHeld with
      | cons _ hRest => exact hRest
      | cons_cons _ _ => exact absurd rfl hStep
    · exact List.Sublist.cons next

/-! ## Any requests -/

/-- The changes that are asked for, each with the phase in which it is asked for. -/
def trail : Phase → List Phase → List (Phase × Phase)
  | _, [] => []
  | phase, next :: requests => (phase, next) :: trail (phase.advance next) requests

/-- The changes that are made. -/
def moves (phase : Phase) (requests : List Phase) : List (Phase × Phase) :=
  (phase.trail requests).filter fun change => change.1.canAdvanceTo change.2

/-- Requests lead to the goal: before any request for failure they hold all the phases ahead, in their
order. -/
def Covered (phase : Phase) (requests : List Phase) : Prop :=
  ∃ before, before <+: requests ∧ .failed ∉ before ∧ phase.ahead.Sublist before

theorem moves_cons_of_allowed {phase next : Phase} (hAllowed : phase.canAdvanceTo next = true)
    (requests : List Phase) : phase.moves (next :: requests) = (phase, next) :: next.moves requests := by
  rw [moves, trail, List.filter_cons, if_pos hAllowed, advance_of_allowed hAllowed, moves]

theorem moves_cons_of_not_allowed {phase next : Phase}
    (hRefused : ¬ phase.canAdvanceTo next = true) (requests : List Phase) :
    phase.moves (next :: requests) = phase.moves requests := by
  rw [moves, trail, List.filter_cons, if_neg hRefused, advance_of_not_allowed hRefused, moves]

theorem rank_lt_of_mem_moves {phase : Phase} {requests : List Phase} :
    ∀ move ∈ phase.moves requests, move.1.rank < move.2.rank :=
  fun _ hMem => rank_lt_of_canAdvanceTo (List.mem_filter.mp hMem).2

/-- The changes that are made lead to the last phase, and no other request does. -/
theorem foldl_advance_eq_getLastD (phase : Phase) (requests : List Phase) :
    requests.foldl advance phase = ((phase.moves requests).map Prod.snd).getLastD phase := by
  induction requests generalizing phase with
  | nil => rfl
  | cons next requests ih =>
    rw [List.foldl_cons]
    by_cases hAllowed : phase.canAdvanceTo next = true
    · rw [moves_cons_of_allowed hAllowed, advance_of_allowed hAllowed, List.map_cons,
        List.getLastD_cons]
      exact ih next
    · rw [moves_cons_of_not_allowed hAllowed, advance_of_not_allowed hAllowed]
      exact ih phase

/-- Every change that is made leads at least one place up. -/
theorem rank_add_length_moves_le (phase : Phase) (requests : List Phase) :
    phase.rank + (phase.moves requests).length ≤ (requests.foldl advance phase).rank := by
  induction requests generalizing phase with
  | nil => exact Nat.le_refl _
  | cons next requests ih =>
    rw [List.foldl_cons]
    by_cases hAllowed : phase.canAdvanceTo next = true
    · have hRise := rank_lt_of_canAdvanceTo hAllowed
      have hRest := ih next
      rw [moves_cons_of_allowed hAllowed, advance_of_allowed hAllowed, List.length_cons]
      omega
    · rw [moves_cons_of_not_allowed hAllowed, advance_of_not_allowed hAllowed]
      exact ih phase

/-- The end is never left. -/
theorem foldl_advance_of_isTerminal {phase : Phase} (hPhase : phase.isTerminal = true)
    (requests : List Phase) : requests.foldl advance phase = phase := by
  induction requests with
  | nil => rfl
  | cons next requests ih => rw [List.foldl_cons, advance_of_isTerminal hPhase, ih]

/-! ## Where the requests lead -/

theorem covered_done (requests : List Phase) : Covered .done requests :=
  ⟨[], List.nil_prefix, List.not_mem_nil, List.Sublist.refl _⟩

/-- Something is ahead of a phase that is not final, and no requests hold it. -/
theorem not_ahead_sublist_nil {phase : Phase} (hPhase : phase.isTerminal = false) :
    ¬ phase.ahead.Sublist [] := by
  obtain ⟨step, hAhead, -⟩ := exists_next hPhase
  rw [hAhead, List.sublist_nil]
  exact List.cons_ne_nil _ _

theorem not_covered_nil {phase : Phase} (hPhase : phase.isTerminal = false) :
    ¬ phase.Covered [] := by
  rintro ⟨before, hPrefix, -, hAhead⟩
  rw [List.prefix_nil.mp hPrefix] at hAhead
  exact not_ahead_sublist_nil hPhase hAhead

/-- A failure that is asked for first leaves no requests before it. -/
theorem not_covered_failed {phase : Phase} (hPhase : phase.isTerminal = false)
    (requests : List Phase) : ¬ phase.Covered (.failed :: requests) := by
  rintro ⟨before, hPrefix, hNone, hAhead⟩
  rcases List.prefix_cons_iff.mp hPrefix with rfl | ⟨rest, rfl, -⟩
  · exact not_ahead_sublist_nil hPhase hAhead
  · exact hNone List.mem_cons_self

/-- A request that is not for failure leaves it to the later ones to cover what is ahead after it. -/
theorem covered_cons_iff {phase next : Phase} (hPhase : phase.isTerminal = false)
    (hNext : next ≠ .failed) (requests : List Phase) :
    phase.Covered (next :: requests) ↔ (phase.advance next).Covered requests := by
  constructor
  · rintro ⟨before, hPrefix, hNone, hAhead⟩
    rcases List.prefix_cons_iff.mp hPrefix with rfl | ⟨rest, rfl, hRest⟩
    · exact absurd hAhead (not_ahead_sublist_nil hPhase)
    · have hNoneLater : Phase.failed ∉ rest := fun hMem => hNone (List.mem_cons_of_mem _ hMem)
      exact ⟨rest, hRest, hNoneLater, (ahead_sublist_cons_iff hPhase hNext rest).mp hAhead⟩
  · rintro ⟨rest, hRest, hNone, hAhead⟩
    refine ⟨next :: rest, List.prefix_cons_iff.mpr (.inr ⟨rest, rfl, hRest⟩), ?_, ?_⟩
    · exact List.not_mem_cons_of_ne_of_not_mem hNext.symm hNone
    · exact (ahead_sublist_cons_iff hPhase hNext rest).mpr hAhead

/-- From a phase that has not failed, requests lead to the goal exactly if they cover what is ahead. -/
theorem foldl_advance_eq_done_iff {phase : Phase} (hPhase : phase ≠ .failed)
    (requests : List Phase) :
    requests.foldl advance phase = .done ↔ phase.Covered requests := by
  induction requests generalizing phase with
  | nil =>
    cases hTerminal : phase.isTerminal with
    | true =>
      obtain rfl := (isTerminal_iff.mp hTerminal).resolve_right hPhase
      exact iff_of_true rfl (covered_done [])
    | false =>
      refine iff_of_false ?_ (not_covered_nil hTerminal)
      rintro rfl
      cases hTerminal
  | cons next requests ih =>
    rw [List.foldl_cons]
    cases hTerminal : phase.isTerminal with
    | true =>
      -- the goal has been reached before, and no request leads away from it
      obtain rfl := (isTerminal_iff.mp hTerminal).resolve_right hPhase
      rw [advance_of_isTerminal hTerminal, foldl_advance_of_isTerminal hTerminal]
      exact iff_of_true rfl (covered_done _)
    | false =>
      by_cases hNext : next = .failed
      · subst hNext
        rw [advance_failed hTerminal, foldl_advance_of_isTerminal rfl]
        exact iff_of_false nofun (not_covered_failed hTerminal requests)
      · rw [covered_cons_iff hTerminal hNext]
        exact ih (advance_ne_failed hPhase hNext)

theorem foldl_advance_ne_failed {phase : Phase} {requests : List Phase} (hPhase : phase ≠ .failed)
    (hNone : .failed ∉ requests) : requests.foldl advance phase ≠ .failed := by
  induction requests generalizing phase with
  | nil => exact hPhase
  | cons next requests ih =>
    have hNext : next ≠ .failed := (List.ne_of_not_mem_cons hNone).symm
    exact ih (advance_ne_failed hPhase hNext) (List.not_mem_of_not_mem_cons hNone)

/-- Requests that hold one for failure lead to an end. -/
theorem isTerminal_foldl_advance {requests : List Phase} (hMem : .failed ∈ requests)
    (phase : Phase) : (requests.foldl advance phase).isTerminal = true := by
  obtain ⟨before, after, rfl⟩ := List.append_of_mem hMem
  have hEnd := isTerminal_advance_failed (before.foldl advance phase)
  rw [List.foldl_append, List.foldl_cons, foldl_advance_of_isTerminal hEnd]
  exact hEnd

/-- A run fails by a request for failure that comes before the goal. -/
theorem foldl_advance_eq_failed_iff {phase : Phase} (hPhase : phase ≠ .failed)
    (requests : List Phase) :
    requests.foldl advance phase = .failed ↔ .failed ∈ requests ∧ ¬ phase.Covered requests := by
  rw [← foldl_advance_eq_done_iff hPhase]
  constructor
  · intro hFailed
    refine ⟨Decidable.byContradiction fun hNone => foldl_advance_ne_failed hPhase hNone hFailed, ?_⟩
    rw [hFailed]
    exact nofun
  · rintro ⟨hMem, hNotDone⟩
    exact (isTerminal_iff.mp (isTerminal_foldl_advance hMem phase)).resolve_left hNotDone

end Phase

/-! ## The report -/

/-- Asks for phases, one after the other. -/
def Run.enterAll (requests : List Phase) (p : Progress σ) : Progress σ :=
  requests.foldl (fun p next => Run.enter next p) p

/-- What is asked for is noted and logged, and nothing but the phase is changed by it. -/
theorem enterAll_eq (requests : List Phase) (p : Progress σ) :
    Run.enterAll requests p =
      { p with
        report := { p.report with phase := requests.foldl Phase.advance p.report.phase }
        log := p.log ++ (p.report.phase.trail requests).map fun change =>
          Run.phaseRecord change.1 change.2
        asked := p.asked ++ p.report.phase.trail requests } := by
  unfold Run.enterAll
  induction requests generalizing p with
  | nil => simp [Phase.trail]
  | cons next requests ih =>
    rw [List.foldl_cons, ih]
    simp [Run.enter, Phase.trail]

/-- Whatever phases are asked for, and from whichever phase on: once a run has come to its end it stays
there; the changes that are allowed are made and no others, and each leads higher up, so that at most four
are made.  From the first phase a run comes to its goal exactly if some of the first requests, none of them
for failure, hold the phases up to the goal in their order, and it fails exactly if failure is asked for and
this is not so. -/
theorem enterAll_ascends (requests : List Phase) (p : Progress σ) :
    let first := p.report.phase
    let last := (Run.enterAll requests p).report.phase
    let moves := first.moves requests
    (∀ before after, requests = before ++ after →
      (Run.enterAll before p).report.phase.isTerminal = true →
        last = (Run.enterAll before p).report.phase) ∧
    (Run.enterAll requests p).asked = p.asked ++ first.trail requests ∧
    last = (moves.map Prod.snd).getLastD first ∧
    (∀ move ∈ moves, move.1.rank < move.2.rank) ∧
    first.rank + moves.length ≤ last.rank ∧ moves.length ≤ 4 ∧
    (first = .idle →
      (last = .done ↔
        ∃ before, before <+: requests ∧ .failed ∉ before ∧
          [.discovering, .located, .assigning, .done].Sublist before) ∧
      (last = .failed ↔
        .failed ∈ requests ∧
          ¬ ∃ before, before <+: requests ∧ .failed ∉ before ∧
            [.discovering, .located, .assigning, .done].Sublist before)) := by
  intro first last moves
  have hLast (asked : List Phase) :
      (Run.enterAll asked p).report.phase = asked.foldl Phase.advance first := by
    rw [enterAll_eq]
  have hRise : first.rank + moves.length ≤ last.rank := by
    have hRank := first.rank_add_length_moves_le requests
    rw [← hLast] at hRank
    exact hRank
  refine ⟨?_, ?_, ?_, Phase.rank_lt_of_mem_moves, hRise, ?_, ?_⟩
  · rintro before after rfl hEnd
    rw [hLast] at hEnd
    show (Run.enterAll (before ++ after) p).report.phase = _
    rw [hLast, hLast, List.foldl_append, Phase.foldl_advance_of_isTerminal hEnd]
  · rw [enterAll_eq]
  · exact (hLast requests).trans (first.foldl_advance_eq_getLastD requests)
  · have hTop := last.rank_le
    omega
  · intro hFirst
    have hStart : first ≠ .failed := by
      rw [hFirst]
      exact nofun
    have hDone := Phase.foldl_advance_eq_done_iff hStart requests
    have hFailed := Phase.foldl_advance_eq_failed_iff hStart requests
    rw [← hLast, hFirst] at hDone hFailed
    exact ⟨hDone, hFailed⟩

/-- Requests that come too early, again or too late are as if they had not been made. -/
theorem enterAll_disorderly :
    let start : Progress Unit := { plane := () }
    let before : List Phase :=
      [.assigning, .discovering, .discovering, .idle, .located, .done, .assigning, .done]
    start.report.phase = .idle ∧ (Run.enterAll before start).report.phase.isTerminal = true ∧
      (Run.enterAll (before ++ [.failed]) start).report.phase = .done ∧
      (Run.enterAll (before ++ [.failed]) start).report.phase =
        (Run.enterAll before start).report.phase := by
  intro start before
  obtain ⟨hStays, -, -, -, -, -, hEnds⟩ := enterAll_ascends (before ++ [.failed]) start
  have hDone : (Run.enterAll (before ++ [.failed]) start).report.phase = .done :=
    (hEnds rfl).1.mpr ⟨before, List.prefix_append _ _, by decide, by decide⟩
  exact ⟨rfl, rfl, hDone, hStays before [.failed] rfl rfl⟩

end ClusterBootstrap
