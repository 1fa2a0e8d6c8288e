import QueryPipeline.Proofs.Pipeline.Reading

/-!
# Windows of rows

Skips and limits one after another keep the rows of one window: those behind a number of rows, and
at most a number of them. The window is told from the stages alone, whatever rows there are, so it
may lie behind all of them.
-/

namespace QueryPipeline.Pipeline

open Document

/-- A window of rows. -/
structure Window where
  /-- How many rows come before the window. -/
  first : Nat
  /-- How many rows the window holds at most, if there is a bound. -/
  size : Option Nat
  deriving DecidableEq, Repr

/-- A stage that leaves out the first rows, or all but the first. -/
def Stage.IsWindow : Stage → Prop
  | .skip number => 0 ≤ number
  | .limit number => 0 ≤ number
  | _ => False

namespace Window

/-- The window of all rows. -/
def all : Window := ⟨0, none⟩

/-- The window ends before a row, which is given by its position. -/
def EndsBefore (window : Window) (row : Nat) : Prop :=
  ∃ size ∈ window.size, window.first + size ≤ row

/-- A row is in the window. -/
def Holds (window : Window) (row : Nat) : Prop := window.first ≤ row ∧ ¬window.EndsBefore row

/-- The rows of a list that are in the window. -/
def rows {Row : Type} (window : Window) (given : List Row) : List Row :=
  match window.size with
  | none => given.drop window.first
  | some size => (given.drop window.first).take size

/-- What a stage leaves of the window. -/
def narrow (window : Window) : Stage → Window
  | .skip count => ⟨window.first + count.toNat, window.size.map (· - count.toNat)⟩
  | .limit count => ⟨window.first, some ((window.size.map (min count.toNat)).getD count.toNat)⟩
  | _ => window

/-- The window that stages leave of all rows. -/
def ofStages (stages : List Stage) : Window := stages.foldl narrow all

/-- The window of all rows ends before none. -/
theorem not_endsBefore_all (row : Nat) : ¬all.EndsBefore row := by
  simp [EndsBefore, all]

/-- A window of some size ends before the rows from its end on. -/
theorem endsBefore_iff {first size row : Nat} :
    EndsBefore ⟨first, some size⟩ row ↔ first + size ≤ row := by
  simp [EndsBefore]

/-- The window of a skip and a limit starts behind the one and is as large as the other. -/
theorem ofStages_skip_limit (skipped size : Int) :
    ofStages [.skip skipped, .limit size] = ⟨skipped.toNat, some size.toNat⟩ := by
  simp [ofStages, narrow, all]

/-- The rows are cut into windows of one size: a row is in the one that its position among rows of
that size gives. -/
theorem holds_page_iff {earlier size row : Nat} (sized : 0 < size) :
    Holds ⟨earlier * size, some size⟩ row ↔ row / size = earlier := by
  rw [Holds, endsBefore_iff, ← Nat.succ_mul, Nat.not_le]
  constructor
  · rintro ⟨low, high⟩
    exact Nat.div_eq_of_lt_le low high
  · rintro rfl
    rw [Nat.mul_comm (row / size).succ]
    exact ⟨Nat.div_mul_le_self row size, Nat.lt_mul_div_succ row sized⟩

/-- A window keeps the positions that it holds. -/
theorem mem_rows_range {window : Window} {total row : Nat} :
    row ∈ window.rows (List.range total) ↔ row < total ∧ window.Holds row := by
  obtain ⟨first, _ | size⟩ := window
  · have unbounded : ¬EndsBefore ⟨first, none⟩ row := by simp [EndsBefore]
    have held : Holds ⟨first, none⟩ row ↔ first ≤ row := and_iff_left unbounded
    rw [held, rows, List.range_eq_range', List.drop_range', List.mem_range'_1]
    dsimp only
    omega
  · have cut : rows ⟨first, some size⟩ (List.range total) =
        ((List.range total).take (first + size)).drop first := by
      rw [List.drop_take, Nat.add_sub_cancel_left, rows]
    rw [cut, List.take_range, List.range_eq_range', List.drop_range', List.mem_range'_1, Holds,
      endsBefore_iff]
    dsimp only
    omega

end Window

/-- A reading under which a skip and a limit leave out exactly the rows that they name. -/
structure WindowReading (Row : Type) extends Reading Row where
  /-- A skip leaves out the first rows. -/
  apply_skip_eq (count : Nat) (rows : List Row) :
    apply [("$skip", .int count)] rows = rows.drop count
  /-- A limit leaves out all but the first rows. -/
  apply_limit_eq (count : Nat) (rows : List Row) :
    apply [("$limit", .int count)] rows = rows.take count

namespace WindowReading

variable {Row : Type} (reading : WindowReading Row)

/-- A stage that cuts out a window cuts it out of the window so far. -/
theorem apply_rows {stage : Stage} (cuts : stage.IsWindow) (window : Window) (given : List Row) :
    reading.apply stage.members (window.rows given) = (window.narrow stage).rows given := by
  obtain ⟨first, size?⟩ := window
  cases stage with
  | skip count =>
    obtain ⟨number, rfl⟩ := Int.eq_ofNat_of_zero_le (show 0 ≤ count from cuts)
    rw [Stage.members, reading.apply_skip_eq, Window.narrow]
    cases size? with
    | none => simp [Window.rows]
    | some size => simp [Window.rows, List.drop_take]
  | limit count =>
    obtain ⟨number, rfl⟩ := Int.eq_ofNat_of_zero_le (show 0 ≤ count from cuts)
    rw [Stage.members, reading.apply_limit_eq, Window.narrow]
    cases size? with
    | none => simp [Window.rows]
    | some size => simp [Window.rows, List.take_take]
  | _ => cases cuts

/-- Stages that cut out windows keep the rows of the window that they leave. -/
theorem run_eq_rows {stages : List Stage} (cut : ∀ stage ∈ stages, stage.IsWindow)
    (given : List Row) : reading.run stages given = (Window.ofStages stages).rows given := by
  -- By induction on the stages, whatever window the earlier ones have left.
  suffices step : ∀ window : Window,
      reading.run stages (window.rows given) = (stages.foldl Window.narrow window).rows given from
    step .all
  induction stages with
  | nil => exact fun _ => rfl
  | cons stage rest ih =>
    intro window
    have first := reading.apply_rows (cut stage List.mem_cons_self) window given
    have others := ih (fun stage mem => cut stage (List.mem_cons_of_mem _ mem))
    rw [Reading.run, List.foldl_cons, first]
    exact others (window.narrow stage)

/-- There is such a reading of documents for every way to satisfy a query. -/
def plain (satisfies : Value → Value → Bool) : WindowReading Value where
  toReading := (SortReading.plain satisfies).toReading
  apply_skip_eq _ _ := rfl
  apply_limit_eq _ _ := rfl

end WindowReading

end QueryPipeline.Pipeline
