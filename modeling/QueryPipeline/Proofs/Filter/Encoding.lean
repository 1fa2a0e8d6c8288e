import QueryPipeline.Proofs.Filter.Compile
import QueryPipeline.Proofs.Filter.Condition
import QueryPipeline.Proofs.Filter.ShareRange
import QueryPipeline.Proofs.Pipeline.Encoding

/-!
# Whole numbers that filters bring in

The only whole number in the condition of a filter is that of an identifier. The others are in the
windows of shares, which are cut out by their size and by how much comes before them. Of a total
that can be encoded the size is the only one that can be too large. Between minus a hundred and a
hundred percent of up to `2 ^ 62` documents it is not.
-/

namespace QueryPipeline

open Document Number Pipeline

/-- A condition on a field can be encoded where the identifier can be, if it looks one up. -/
theorem Pipeline.Condition.IsOn.isEncodable_select {field : String} {condition : Condition}
    (on : condition.IsOn field)
    (sound : ∀ identifier, condition = .identified identifier → identifier.IsEncodable) :
    (Stage.select condition).IsEncodable := by
  cases on with
  | field test plain =>
    refine Stage.isEncodable_select ?_
    simp [Condition.toValue, single, Value.integers, memberIntegers, plain]
  | between low high plain =>
    refine Stage.isEncodable_select ?_
    simp [Condition.toValue, single, Value.integers, memberIntegers, itemIntegers, plain]
  | identified _ identifier =>
    exact Stage.isEncodable_select_identified_iff.mpr (sound identifier rfl)

/-- Filters whose identifiers can be encoded. -/
def IdentifiersEncodable (filters : List Filter) : Prop :=
  ∀ filter ∈ filters, ∀ identifier,
    filter.condition = .ok (some (.identified identifier)) → identifier.IsEncodable

/-- The conditions of filters can be encoded where their identifiers can be. -/
theorem IdentifiersEncodable.isEncodable_select {filters : List Filter}
    (sound : IdentifiersEncodable filters) :
    ∀ filter ∈ filters, ∀ condition, filter.condition = .ok (some condition) →
      (Stage.select condition).IsEncodable := by
  intro filter mem condition made
  obtain ⟨field, -, on⟩ := Filter.isOn_of_condition made
  exact on.isEncodable_select fun identifier same => sound filter mem identifier (same ▸ made)

/-- A share of a number of documents whose size can be encoded, if there are any and it can be
told. -/
def ShareIsEncodable (total : Int) (percent : Binary64) : Prop :=
  total ≠ 0 → ∀ size, shareSize total percent = .ok size → size < 2 ^ 63

/-- The window of a share of a total below `2 ^ 63` can be encoded exactly where its size can be. -/
theorem isEncodable_shareStages_iff {total : Int} {percent : Binary64} {window : List Stage}
    (bounded : total < 2 ^ 63) (shared : shareStages total percent = .ok window) :
    (∀ stage ∈ window, stage.IsEncodable) ↔ ShareIsEncodable total percent := by
  obtain ⟨none, rfl⟩ | ⟨some, size, sized, rfl⟩ := shareStages_eq_ok shared
  · exact iff_of_true (List.forall_mem_nil _) fun some => absurd none some
  · have told : ShareIsEncodable total percent ↔ size < 2 ^ 63 := by
      constructor
      · exact fun sound => sound some size sized
      · rintro small - other same
        exact Except.ok.inj (sized.symm.trans same) ▸ small
    rw [told, windowStages]
    split
    · rw [List.forall_mem_singleton]
      exact iff_of_true (Stage.isEncodable_select rfl) (by omega)
    · next positive =>
      -- Only a total above nothing has a share of more than nothing, so no more comes before the
      -- window than there is.
      have least : 0 ≤ total := by
        by_contra below
        exact positive (shareSize_le_zero (by omega) sized)
      split
      · rw [List.forall_mem_cons, List.forall_mem_singleton, Stage.isEncodable_skip_iff,
          Stage.isEncodable_limit_iff, IsEncodable, IsEncodable]
        omega
      · rw [List.forall_mem_singleton, Stage.isEncodable_limit_iff, IsEncodable]
        omega

/-- The units of `2 ^ 62`. -/
def halfBound : Nat := 2 ^ 62 * Binary64.one

/-- The units of `2 ^ 62` and a hundred times as many are held exactly. -/
theorem isExact_halfBound :
    Binary64.IsExact halfBound ∧ Binary64.IsExact (100 * halfBound) := by
  have power : halfBound = 2 ^ (62 + Binary64.oneExponent) := by
    rw [halfBound, Binary64.one_eq, Nat.pow_add]
  rw [power]
  exact ⟨Binary64.isExact_two_pow _, Binary64.isExact_mul_two_pow (by decide) _⟩

/-- The hundredth of a product that is finite is rounded twice. -/
theorem units_of_hundredth {whole units count : Nat} {negative sign : Bool}
    (divided : ((Binary64.finite false whole).mul (.finite negative units)).divNat 100 =
      .finite sign count) :
    count = Binary64.nearest (Binary64.nearest (whole * units) Binary64.one) 100 := by
  rw [Binary64.mul, Binary64.round] at divided
  split at divided
  · rw [Binary64.divNat, Binary64.round] at divided
    split at divided
    · cases divided
      rfl
    · cases divided
  · cases divided

/-- None of the three roundings of a share leads beyond `2 ^ 62` documents: not that of the total,
nor that of the product, nor that of its hundredth. -/
theorem hundredth_le_halfBound {total units : Nat} (most : total ≤ 2 ^ 62)
    (part : units ≤ 100 * Binary64.one) :
    Binary64.nearest (Binary64.nearest (Binary64.nearest (total * Binary64.one) 1 * units)
      Binary64.one) 100 ≤ halfBound := by
  obtain ⟨held, heldHundred⟩ := isExact_halfBound
  have whole : Binary64.nearest (total * Binary64.one) 1 ≤ halfBound := by
    refine Binary64.nearest_le Nat.one_pos held ?_
    rw [Nat.mul_one]
    exact Nat.mul_le_mul_right _ most
  have product : Binary64.nearest (Binary64.nearest (total * Binary64.one) 1 * units)
      Binary64.one ≤ 100 * halfBound := by
    refine Binary64.nearest_le Binary64.one_pos heldHundred ?_
    calc Binary64.nearest (total * Binary64.one) 1 * units
        ≤ halfBound * (100 * Binary64.one) := Nat.mul_le_mul whole part
      _ = 100 * halfBound * Binary64.one := by ring
  refine Binary64.nearest_le (by decide) held ?_
  rwa [Nat.mul_comm halfBound]

/-- Between minus a hundred and a hundred percent of up to `2 ^ 62` documents, the size of a share
can be encoded. -/
theorem shareIsEncodable_of_le {total : Int} {units : Nat} {negative : Bool}
    (most : total ≤ 2 ^ 62) (part : units ≤ 100 * Binary64.one) :
    ShareIsEncodable total (.finite negative units) := by
  intro some size sized
  by_cases below : total < 0
  · have nothing := shareSize_le_zero below sized
    omega
  · obtain ⟨whole, held⟩ := held_of_shareSize sized
    have plus := toBinary64_eq_ok held
    rw [decide_eq_false below] at plus
    subst plus
    obtain ⟨factor, sign, count, same, divided, near⟩ := natAbs_shareSize_le held sized
    obtain ⟨minus, rfl⟩ : ∃ minus, factor = .finite minus units := by
      obtain rfl | rfl := same
      · exact ⟨negative, rfl⟩
      · exact ⟨!negative, rfl⟩
    have few : total.natAbs ≤ 2 ^ 62 := by omega
    have rounded : count ≤ halfBound :=
      (units_of_hundredth divided).trans_le (hundredth_le_halfBound few part)
    have bound : (count + Binary64.one - 1) / Binary64.one ≤ 2 ^ 62 :=
      Nat.not_lt.mp fun above => absurd (Binary64.lt_ceil_iff.mp above) (Nat.not_lt.mpr rounded)
    omega

/-- An engine whose counts are all below a bound. -/
def Engine.CountsBelow (engine : Engine) (bound : Int) : Prop :=
  ∀ earlier collection pipeline total,
    engine.total earlier (.counting collection pipeline) = .ok total → total < bound

/-- Filters whose identifiers can be encoded, and of whose shares all that are taken can be. -/
structure FiltersEncodable (engine : Engine) (collection : String) (filters : List Filter) :
    Prop where
  /-- The identifiers can be encoded. -/
  identifiers : IdentifiersEncodable filters
  /-- The shares can be encoded. -/
  shares : ∀ total percent, TakesShare engine collection [] filters .empty total percent →
    ShareIsEncodable total percent

/-- A count can be encoded where the counted stages can be. -/
theorem Call.isEncodable_counting {collection : String} {counted : List Stage}
    (encodable : ∀ stage ∈ counted, stage.IsEncodable) :
    (Call.counting collection counted).IsEncodable :=
  List.forall_mem_append.mpr ⟨encodable, List.forall_mem_singleton.mpr (Stage.isEncodable_count _)⟩

/-- The conditions of all filters are in the outcome of a compilation. -/
theorem Builds.select_mem {engine : Engine} {collection : String} {pipeline final : List Stage}
    {filters : List Filter} {trace after : Trace}
    (run : Builds engine collection pipeline filters trace (.ok final) after) {filter : Filter}
    (mem : filter ∈ filters) {condition : Condition}
    (made : filter.condition = .ok (some condition)) : .select condition ∈ final := by
  generalize given : Except.ok final = result at run
  induction run with
  | done => cases mem
  | stopped => cases given
  | @next pipeline added other rest trace between after result step others ih =>
    obtain rfl | later := List.mem_cons.mp mem
    · have inside : .select condition ∈ added := by
        cases step with
        | dropped none => exact nomatch made.symm.trans none
        | whole own | ignored own | cut own =>
          cases made.symm.trans own
          exact List.mem_cons_self
      subst given
      obtain ⟨more, rfl, -⟩ := others.outcome
      exact List.mem_append_left _ (List.mem_append_right _ inside)
    · exact ih later given

section

variable {engine : Engine} {collection : String} {filters : List Filter}
  (bounded : engine.CountsBelow (2 ^ 63))

include bounded

/-- The window of a share that is taken can be encoded exactly where its size can be. -/
theorem TakesShare.isEncodable_iff {pipeline window : List Stage} {trace : Trace} {total : Int}
    {percent : Binary64}
    (taken : TakesShare engine collection pipeline filters trace total percent)
    (shared : shareStages total percent = .ok window) :
    (∀ stage ∈ window, stage.IsEncodable) ↔ ShareIsEncodable total percent := by
  obtain ⟨-, -, -, -, counted⟩ := taken
  exact isEncodable_shareStages_iff (bounded _ _ _ _ counted) shared

/-- Filters that can be encoded: all that is sent for them can be, and their outcome. -/
theorem FiltersEncodable.isEncodable (sound : FiltersEncodable engine collection filters)
    {result : Except Failure (List Stage)} {after : Trace}
    (run : Builds engine collection [] filters .empty result after) :
    (∀ call ∈ after.calls, call.IsEncodable) ∧
      ∀ final, result = .ok final → ∀ stage ∈ final, stage.IsEncodable := by
  obtain ⟨⟨calls, sent, counts⟩, outcome⟩ := run.forall_stages (List.forall_mem_nil _)
    sound.identifiers.isEncodable_select fun total percent window taken shared =>
      (taken.isEncodable_iff bounded shared).mpr (sound.shares total percent taken)
  rw [Trace.calls_empty, List.nil_append] at sent
  refine ⟨fun call mem => ?_, outcome⟩
  obtain ⟨counted, rfl, encodable⟩ := counts call (sent ▸ mem)
  exact Call.isEncodable_counting encodable

/-- The outcome of a compilation can be encoded exactly where its filters can be. -/
theorem filtersEncodable_iff {selected : List Stage} {after : Trace}
    (run : Builds engine collection [] filters .empty (.ok selected) after) :
    (∀ stage ∈ selected, stage.IsEncodable) ↔ FiltersEncodable engine collection filters := by
  constructor
  · intro encodable
    refine ⟨fun filter mem identifier made => ?_, fun total percent taken => ?_⟩
    · exact Stage.isEncodable_select_identified_iff.mp
        (encodable _ (run.select_mem mem made))
    · have compiled := run.apply
      obtain ⟨failure, -, failed⟩ | ⟨window, shared, inside⟩ := taken.outcome
      · rw [compiled] at failed
        cases failed
      · refine (taken.isEncodable_iff bounded shared).mp fun stage mem => ?_
        exact encodable stage (inside selected (by rw [compiled]) stage mem)
  · exact fun sound => (sound.isEncodable bounded run).2 selected rfl

end

/-- A filter that asks for no share or for one between minus a hundred and a hundred percent. -/
def Filter.AsksForPart (filter : Filter) : Prop :=
  ∀ percent, filter.finiteShare? = some percent →
    ∃ negative units, percent = .finite negative units ∧ units ≤ 100 * Binary64.one

/-- Filters that ask for parts of up to `2 ^ 62` documents can be encoded where their identifiers
can be. -/
theorem IdentifiersEncodable.filtersEncodable {engine : Engine} {collection : String}
    {filters : List Filter} (sound : IdentifiersEncodable filters)
    (bounded : engine.CountsBelow (2 ^ 62 + 1)) (parts : ∀ filter ∈ filters, filter.AsksForPart) :
    FiltersEncodable engine collection filters := by
  refine ⟨sound, fun total percent taken => ?_⟩
  obtain ⟨rfl, -, -, asked, counted⟩ := taken
  obtain ⟨negative, units, rfl, part⟩ :=
    parts _ (List.mem_append_right _ List.mem_cons_self) percent asked
  have most := bounded _ _ _ _ counted
  exact shareIsEncodable_of_le (by omega) part

/-- The outcome of a compilation without shares can be encoded exactly where the identifiers can
be. -/
theorem identifiersEncodable_iff {filters : List Filter} {stages : List Stage}
    (compiled : compile filters = .ok stages) :
    (∀ stage ∈ stages, stage.IsEncodable) ↔ IdentifiersEncodable filters := by
  constructor
  · intro encodable filter mem identifier made
    exact Stage.isEncodable_select_identified_iff.mp
      (encodable _ ((mem_compile_iff compiled).mpr ⟨filter, mem, _, made, rfl⟩))
  · intro sound stage mem
    obtain ⟨filter, inside, condition, made, rfl⟩ := (mem_compile_iff compiled).mp mem
    exact sound.isEncodable_select filter inside condition made

end QueryPipeline
