import QueryPipeline.Filter.Compile
import QueryPipeline.Proofs.Failure

/-!
# Compiling a list of filters

The filters of a list do not know of each other: what a list compiles to is what its filters compile
to on their own, put together in order, and it fails where one of them does.
-/

namespace QueryPipeline

open Document Number Pipeline

/-- One text is an operand of every operator but that for ranges. -/
theorem Operand.single_fits_iff {text : String} {operator : Operator} :
    (single text).fits operator = true ↔ operator ≠ .range := by
  simp [fits]

/-- Two ends are an operand of the operator for ranges alone. -/
theorem Operand.between_fits_iff {low high : String} {operator : Operator} :
    (between low high).fits operator = true ↔ operator = .range := by
  simp [fits]

/-- A filter on its own compiles to its condition, if it has one. -/
theorem compile_singleton (filter : Filter) :
    compile [filter] = filter.condition.map fun condition? =>
      (condition?.map Stage.select).toList := by
  rw [compile]
  cases filter.condition with
  | error failure => rfl
  | ok condition? => exact congrArg Except.ok (List.append_nil _)

/-- A list compiles to what its first filter and the others compile to. -/
theorem compile_cons (filter : Filter) (rest : List Filter) :
    compile (filter :: rest) =
      (compile [filter]).bind fun first => (compile rest).map fun others => first ++ others := by
  rw [compile_singleton, compile]
  cases filter.condition with
  | error failure => rfl
  | ok condition? => cases compile rest <;> rfl

/-- A list compiles to some stages exactly where its filters compile to their parts. -/
theorem compile_eq_ok_iff {filters : List Filter} {stages : List Stage} :
    compile filters = .ok stages ↔
      ∃ parts : List (List Stage),
        filters.map (fun filter => compile [filter]) = parts.map .ok ∧
          stages = parts.flatten := by
  induction filters generalizing stages with
  | nil =>
    constructor
    · rintro ⟨⟩
      exact ⟨[], rfl, rfl⟩
    · rintro ⟨parts, none, rfl⟩
      rw [List.map_nil, eq_comm, List.map_eq_nil_iff] at none
      rw [none]
      rfl
  | cons filter rest ih =>
    rw [compile_cons]
    constructor
    · intro compiled
      obtain ⟨part, first, together⟩ := bind_eq_ok compiled
      obtain ⟨more, others, rfl⟩ := map_eq_ok together
      obtain ⟨parts, each, rfl⟩ := ih.mp others
      exact ⟨part :: parts, by rw [List.map_cons, first, each, List.map_cons], rfl⟩
    · rintro ⟨parts, each, rfl⟩
      cases parts with
      | nil => cases each
      | cons part parts =>
        rw [List.map_cons, List.map_cons, List.cons.injEq] at each
        rw [each.1, ih.mpr ⟨parts, each.2, rfl⟩]
        rfl

/-- The stages of a list are the conditions of its filters. -/
theorem mem_compile_iff {filters : List Filter} {stages : List Stage}
    (compiled : compile filters = .ok stages) {stage : Stage} :
    stage ∈ stages ↔ ∃ filter ∈ filters, ∃ condition,
      filter.condition = .ok (some condition) ∧ stage = .select condition := by
  induction filters generalizing stages with
  | nil =>
    cases compiled
    simp
  | cons filter rest ih =>
    rw [compile_cons, compile_singleton] at compiled
    obtain ⟨part, first, together⟩ := bind_eq_ok compiled
    obtain ⟨more, others, rfl⟩ := map_eq_ok together
    obtain ⟨condition?, made, rfl⟩ := map_eq_ok first
    rw [List.mem_append, ih others]
    cases condition? <;> simp [made]

/-- A filter that asks for no share. -/
def Filter.unshared (filter : Filter) : Filter := { filter with share := none }

/-- What a list compiles to does not depend on the shares that its filters ask for. -/
theorem compile_map_unshared (filters : List Filter) :
    compile (filters.map Filter.unshared) = compile filters := by
  induction filters with
  | nil => rfl
  | cons filter rest ih =>
    have condition : filter.unshared.condition = filter.condition := rfl
    rw [List.map_cons, compile, compile, condition, ih]

/-- A list compiles where each of its filters has a condition or is dropped. -/
theorem compile_succeeds_iff {filters : List Filter} :
    (∃ stages, compile filters = .ok stages) ↔
      ∀ filter ∈ filters, ∃ condition?, filter.condition = .ok condition? := by
  induction filters with
  | nil => exact ⟨fun _ _ mem => absurd mem List.not_mem_nil, fun _ => ⟨[], rfl⟩⟩
  | cons filter rest ih =>
    rw [compile_cons, compile_singleton, List.forall_mem_cons, ← ih]
    cases filter.condition with
    | error failure => simp [Except.map, Except.bind]
    | ok condition? => cases compile rest <;> simp [Except.map, Except.bind]

end QueryPipeline
