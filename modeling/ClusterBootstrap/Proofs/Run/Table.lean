import ClusterBootstrap.Proofs.Output
import ClusterBootstrap.Proofs.Text.Breaks

/-!
# The table of servers

A report shows each server on a line of its own.  The line is made of texts that the control plane has
chosen, and of these only the message is quoted.  So a message never breaks the line, and every line break
in another field does.
-/

namespace ClusterBootstrap

open Text (breaks)

/-! ## One server -/

/-- The fields of a node that are shown as they are. -/
def Node.unquoted (node : Node) : List String :=
  node.uri :: (node.aliasName.toList ++ node.status.toList ++ node.uuid.toList ++
    node.replicaset.toList)

/-- The line breaks in the fields of a node that are shown as they are. -/
def Node.breaks (node : Node) : Nat := (node.unquoted.map Text.breaks).sum

theorem breaks_labelled (label : String) (hLabel : breaks label = 0) (value : Option String) :
    breaks (Node.labelled label value) = (value.toList.map breaks).sum := by
  have hSpace : breaks " " = 0 := by decide
  have hEquals : breaks "=" = 0 := by decide
  cases value with
  | none => rfl
  | some text => simp [Node.labelled, hLabel, hSpace, hEquals]

theorem breaks_message (message : Option String) :
    breaks (Node.labelled "message" (message.map Text.quoted)) = 0 := by
  rw [breaks_labelled _ (by decide)]
  cases message with
  | none => rfl
  | some text => simp [Text.breaks_quoted]

/-- A node is shown with the line breaks of its unquoted fields and no others. -/
theorem breaks_display (node : Node) : breaks node.display = node.breaks := by
  have hAlias := breaks_labelled "alias" (by decide) node.aliasName
  have hStatus := breaks_labelled "status" (by decide) node.status
  have hUuid := breaks_labelled "uuid" (by decide) node.uuid
  have hReplicaset := breaks_labelled "replicaset" (by decide) node.replicaset
  simp only [Node.display, Text.breaks_append, hAlias, hStatus, hUuid, hReplicaset, breaks_message,
    Node.breaks, Node.unquoted, List.map_cons, List.map_append, List.sum_cons, List.sum_append]
  omega

/-! ## Lines that are printed -/

theorem breaks_unlines (lines : List String) :
    breaks (Report.unlines lines) = lines.length + (lines.map breaks).sum := by
  have hBreak : breaks "\n" = 1 := by decide
  induction lines with
  | nil => rfl
  | cons line lines ih =>
    rw [unlines_cons, Text.breaks_append, Text.breaks_append, hBreak, ih, List.length_cons,
      List.map_cons, List.sum_cons]
    omega

/-- Texts that are printed line by line are the first lines exactly if none of them has a line break,
whatever is printed behind them. -/
theorem take_lines_unlines_iff (lines : List String) (rest : String) :
    (Text.lines (Report.unlines lines ++ rest)).take lines.length = lines ↔
      ∀ line ∈ lines, breaks line = 0 := by
  constructor
  · -- no line of a text has a break
    intro hFirst line hMem
    rw [← hFirst] at hMem
    exact Text.breaks_of_mem_lines (List.mem_of_mem_take hMem)
  · intro hNone
    induction lines with
    | nil => rfl
    | cons line lines ih =>
      obtain ⟨hLine, hLines⟩ := List.forall_mem_cons.mp hNone
      have hText : Report.unlines (line :: lines) ++ rest =
          line ++ "\n" ++ (Report.unlines lines ++ rest) := by
        rw [unlines_cons]
        simp only [String.append_assoc]
      rw [hText, Text.lines_append_break hLine, List.length_cons, List.take_succ_cons, ih hLines]

/-! ## The table -/

/-- A report begins with its table: what is shown of each server, and the separator.  The table has one line
for each of these and one more for each line break in a field that is not quoted.  So the first lines of
the report are the servers, one each, and then the separator, exactly if no such field has a line break; the
messages may have as many as they like. -/
theorem table_lines (report : Report) (hServers : report.servers ≠ []) :
    let table := report.servers.map Node.display ++ [Report.separator]
    (∃ rest, report.text = Report.unlines table ++ rest) ∧
      (Text.lines (Report.unlines table)).length =
        report.servers.length + 1 + (report.servers.map Node.breaks).sum ∧
      ((Text.lines report.text).take (report.servers.length + 1) = table ↔
        ∀ server ∈ report.servers, server.breaks = 0) := by
  intro table
  have hSeparator : breaks Report.separator = 0 := by decide
  have hLength : table.length = report.servers.length + 1 := by simp [table]
  have hTable : report.serverLines = table := by
    rw [Report.serverLines, if_neg (by simpa using hServers)]
  have hText : report.text =
      Report.unlines table ++ Report.unlines (report.bootstrapLines ++ report.outcomeLines) := by
    rw [Report.text, Report.lines, List.append_assoc, unlines_append, hTable]
  refine ⟨⟨_, hText⟩, ?_, ?_⟩
  · have hDisplay : (report.servers.map Node.display).map breaks =
        report.servers.map Node.breaks := by
      rw [List.map_map]
      exact List.map_congr_left fun server _ => breaks_display server
    rw [Text.length_lines, breaks_unlines, hLength, List.map_append, List.sum_append, hDisplay]
    simp [hSeparator]
  · rw [hText, ← hLength, take_lines_unlines_iff, List.forall_mem_append, List.forall_mem_map,
      List.forall_mem_singleton, and_iff_left hSeparator]
    simp only [breaks_display]

/-- A message that would forge an outcome stays on the line of its server. -/
theorem table_lines_forged_message :
    let down : Node := { Node.ofUri "b:2" with message := some "down\nsuccess" }
    let report : Report := { servers := [.ofUri "a:1", down] }
    report.servers ≠ [] ∧
      (Text.lines report.text).take 3 =
        ["a:1", "b:2 message=\"down\\nsuccess\"", Report.separator] := by
  intro down report
  have hServers : report.servers ≠ [] := List.cons_ne_nil _ _
  have hShown : report.servers.map Node.display =
      ["a:1", "b:2 message=\"down\\nsuccess\""] := by decide +kernel
  have hFirst := (table_lines report hServers).2.2.mpr (by decide +kernel)
  rw [hShown] at hFirst
  exact ⟨hServers, hFirst⟩

/-- A uri that does so has its way: the second line of this failed run tells success. -/
theorem table_lines_forged_uri :
    let report : Report := { phase := .failed, servers := [.ofUri "a:1\nsuccess"] }
    report.servers ≠ [] ∧ (Text.lines report.text)[1]? = some "success" ∧
      (Text.lines report.text).take 2 ≠
        report.servers.map Node.display ++ [Report.separator] := by
  decide +kernel

end ClusterBootstrap
