import ClusterBootstrap.Output
import ClusterBootstrap.Proofs.Json.Strings
import ClusterBootstrap.Run.Report

/-!
# What an output holds in the end

An output that never refuses holds exactly the text that was printed.  One that accepts a number of bytes in
all holds as many of the first bytes of that text, and refuses the text if these are not all.
-/

namespace ClusterBootstrap

open Json (bytesOf)

/-! ## Lines as one text -/

@[simp] theorem unlines_nil : Report.unlines [] = "" := rfl

@[simp] theorem unlines_cons (line : String) (lines : List String) :
    Report.unlines (line :: lines) = line ++ "\n" ++ Report.unlines lines := by
  simp [Report.unlines, String.join_cons]

@[simp] theorem unlines_append (lines others : List String) :
    Report.unlines (lines ++ others) = Report.unlines lines ++ Report.unlines others := by
  simp [Report.unlines]

namespace Output

/-! ## Writing -/

/-- An output that never refuses, with these bytes in it. -/
def holding (written : List UInt8) : Output := { written }

theorem run_putLines (lines : List String) (written : List UInt8) :
    (putLines lines).run (holding written) =
      (.ok (), holding (written ++ bytesOf (Report.unlines lines))) := by
  induction lines generalizing written with
  | nil =>
    have hNone : bytesOf "" = [] := Json.bytesOf_eq_encode _
    rw [unlines_nil, hNone, List.append_nil]
    rfl
  | cons line lines ih =>
    -- a line is two writings, and neither is refused
    have hLine : (putLines (line :: lines)).run (holding written) =
        (putLines lines).run (holding (written ++ bytesOf line ++ bytesOf "\n")) := rfl
    rw [hLine, ih, unlines_cons, Json.bytesOf_append, Json.bytesOf_append]
    simp only [List.append_assoc]

/-- The text that was printed is the text it holds. -/
theorem text_holding (text : String) : (holding (bytesOf text)).text = text := by
  have hWhole : String.fromUTF8? ⟨(bytesOf text).toArray⟩ = some text := by
    rw [Json.bytesOf_eq_encode, Json.fromUTF8?_encode, String.ofList_toList]
  simp only [Output.text, holding, Nat.sub_zero, List.take_length, hWhole]

/-- What is printed to an empty output is taken whole. -/
theorem run_putLines_unlimited (lines : List String) :
    ((putLines lines).run .unlimited).1 = .ok () ∧
      ((putLines lines).run .unlimited).2.text = Report.unlines lines := by
  have hRun := run_putLines lines []
  rw [List.nil_append] at hRun
  have hEmpty : unlimited = holding [] := rfl
  rw [hEmpty, hRun]
  exact ⟨rfl, text_holding _⟩

/-! ## Writing where the room ends -/

/-- An output that accepts `n` bytes in all, after these bytes were written to it as far as it took
them. -/
def filled (n : Nat) (bytes : List UInt8) : Output :=
  { room := some (n - bytes.length), written := bytes.take n }

/-- How the writing of some bytes ends on an output that accepts `n` bytes in all. -/
def ending (n : Nat) (bytes : List UInt8) : Except OutputFault Unit :=
  if bytes.length ≤ n then .ok () else .error .full

theorem ending_eq_ok_iff {n : Nat} {bytes : List UInt8} :
    ending n bytes = .ok () ↔ bytes.length ≤ n := by
  unfold ending
  split_ifs with hFits <;> simp [hFits]

theorem ending_eq_full_iff {n : Nat} {bytes : List UInt8} :
    ending n bytes = .error .full ↔ n < bytes.length := by
  rw [← Nat.not_le, ← ending_eq_ok_iff]
  unfold ending
  split_ifs with hFits <;> simp

theorem limited_eq_filled (n : Nat) : limited n = filled n [] := by
  simp [limited, filled]

/-- An output that is full stays as it is. -/
theorem filled_append_of_le {n : Nat} {bytes : List UInt8} (hFull : n ≤ bytes.length)
    (others : List UInt8) : filled n (bytes ++ others) = filled n bytes := by
  have hNone : n - bytes.length = 0 := Nat.sub_eq_zero_of_le hFull
  simp only [filled, List.length_append, List.take_append_of_le_length hFull, Nat.sub_add_eq,
    hNone, Nat.zero_sub]

theorem accept_filled (n : Nat) (bytes others : List UInt8) :
    (filled n bytes).accept others =
      (decide (others.length ≤ n - bytes.length), filled n (bytes ++ others)) := by
  simp only [accept, filled, List.take_append, List.length_append, Nat.sub_add_eq]

/-- One text is taken as far as there is room, and refused unless that is the whole text. -/
theorem run_put (text : String) (output : Output) :
    (put text).run output =
      (if (output.accept (bytesOf text)).1 then .ok () else .error .full,
        (output.accept (bytesOf text)).2) := by
  have hSteps : (put text).run output =
      (if (output.accept (bytesOf text)).1 then pure () else throw .full : Printing Unit).run
        (output.accept (bytesOf text)).2 := rfl
  rw [hSteps]
  split <;> rfl

theorem run_put_filled (text : String) (n : Nat) (bytes : List UInt8) :
    (put text).run (filled n bytes) =
      (if (bytesOf text).length ≤ n - bytes.length then .ok () else .error .full,
        filled n (bytes ++ bytesOf text)) := by
  rw [run_put, accept_filled]
  simp only [decide_eq_true_eq]

/-- The first refusal ends the writing of several texts. -/
theorem run_forM_cons (text : String) (texts : List String) (output : Output) :
    ((text :: texts).forM put).run output =
      match (put text).run output with
      | (.ok (), next) => (texts.forM put).run next
      | (.error fault, next) => (.error fault, next) := by
  have hSteps : (text :: texts).forM put = put text >>= fun _ => texts.forM put := rfl
  rw [hSteps]
  simp only [ExceptT.run, bind, ExceptT.bind, ExceptT.mk, StateT.bind]
  rcases put text output with ⟨_ | _, _⟩ <;> rfl

/-- However a text is cut into pieces, an output takes as much of it as there is room for. -/
theorem run_forM_filled (pieces : List String) {n : Nat} {bytes : List UInt8}
    (hFits : bytes.length ≤ n) :
    (pieces.forM put).run (filled n bytes) =
      (ending n (bytes ++ bytesOf (String.join pieces)),
        filled n (bytes ++ bytesOf (String.join pieces))) := by
  -- on the pieces; the invariant is that all before them did fit
  induction pieces generalizing bytes with
  | nil =>
    have hNone : bytesOf (String.join []) = [] := Json.bytesOf_eq_encode _
    rw [hNone, List.append_nil, ending_eq_ok_iff.mpr hFits]
    rfl
  | cons piece pieces ih =>
    have hJoin : bytesOf (String.join (piece :: pieces)) =
        bytesOf piece ++ bytesOf (String.join pieces) := by
      rw [String.join_cons, Json.bytesOf_append]
    rw [run_forM_cons, run_put_filled, hJoin, ← List.append_assoc]
    by_cases hPiece : (bytesOf piece).length ≤ n - bytes.length
    · have hStill : (bytes ++ bytesOf piece).length ≤ n := by
        rw [List.length_append]
        omega
      simp only [if_pos hPiece]
      exact ih hStill
    · -- what is refused has used up the room, so that the rest would not be seen
      have hFull : n < (bytes ++ bytesOf piece).length := by
        rw [List.length_append]
        omega
      have hEnding : ending n (bytes ++ bytesOf piece ++ bytesOf (String.join pieces)) =
          .error .full := by
        apply ending_eq_full_iff.mpr
        rw [List.length_append]
        omega
      simp only [if_neg hPiece]
      rw [hEnding, filled_append_of_le (Nat.le_of_lt hFull)]

/-- Nothing more is written to an output that is full. -/
theorem run_forM_of_full (pieces : List String) {n : Nat} {bytes : List UInt8}
    (hFull : n ≤ bytes.length) :
    ((pieces.forM put).run (filled n bytes)).2 = filled n bytes := by
  induction pieces with
  | nil => rfl
  | cons piece pieces ih =>
    rw [run_forM_cons, run_put_filled, filled_append_of_le hFull]
    split_ifs
    · exact ih
    · rfl

/-- A line is written as two pieces. -/
theorem putLines_eq_forM (lines : List String) :
    putLines lines = (lines.flatMap fun line => [line, "\n"]).forM put := by
  induction lines with
  | nil => rfl
  | cons line lines ih =>
    have hStep : putLines (line :: lines) = (do put line; put "\n"; putLines lines) := rfl
    rw [hStep, ih]
    rfl

theorem join_flatMap_break (lines : List String) :
    String.join (lines.flatMap fun line => [line, "\n"]) = Report.unlines lines := by
  induction lines with
  | nil => rfl
  | cons line lines ih =>
    rw [List.flatMap_cons, String.join_append, ih, unlines_cons]
    simp [String.join_cons]

theorem run_putLines_limited (lines : List String) (n : Nat) :
    (putLines lines).run (limited n) =
      (ending n (bytesOf (Report.unlines lines)), filled n (bytesOf (Report.unlines lines))) := by
  rw [putLines_eq_forM, limited_eq_filled, run_forM_filled _ (Nat.zero_le n), List.nil_append,
    join_flatMap_break]

theorem run_putLines_of_full (lines : List String) {n : Nat} {bytes : List UInt8}
    (hFull : n ≤ bytes.length) : ((putLines lines).run (filled n bytes)).2 = filled n bytes := by
  rw [putLines_eq_forM]
  exact run_forM_of_full _ hFull

end Output

end ClusterBootstrap
