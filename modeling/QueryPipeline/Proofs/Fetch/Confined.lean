import QueryPipeline.Proofs.Fetch.Calls
import QueryPipeline.Proofs.Filter.Tenant

/-!
# Lists confined to a tenant

Whatever a client writes, the stages of its filters stand in one block behind the condition of the
tenant, directly after the stages that the caller put first: in the count and in the page of a list,
and in a union once for the base and once inside every other source. Counts for shares are of such a
block alone. Rows that leave the block are rows of the tenant under every reading of the stages.
-/

namespace QueryPipeline

open Document Number Pipeline Url

/-- The calls for a list of one collection that is confined to a tenant: counts for shares, each of
a confined block, then perhaps the count, and after it perhaps the page. The block of these two
stands directly after the stages of the caller. -/
def ListConfined (scope : Condition) (parameters : Parameters) (options : Options)
    (collection : String) (initial final : List Stage) (calls : List Call) : Prop :=
  ∃ shares rest, calls = shares ++ rest ∧
    (∀ call ∈ shares, ∃ block,
      ConfinedBlock scope options.tenantField parameters.filters block ∧
        call = .counting collection block) ∧
    (rest = [] ∨ ∃ block, ConfinedBlock scope options.tenantField parameters.filters block ∧
      (rest = [.counting collection (initial ++ block)] ∨
        rest = [.counting collection (initial ++ block),
          .fetching collection (pagePipeline (.ofParameters parameters options) options
            (initial ++ block) final)]))

section

variable {options : Options} {tenant : String} (owned : options.tenant = some tenant)
  (nonempty : tenant ≠ "") (named : options.tenantField ≠ "")

include owned nonempty named

/-- The filters of parameters are confined by the filter of the tenant. -/
theorem Url.Parameters.confined_eq (parameters : Parameters) :
    parameters.confined options = tenantFilter options.tenantField tenant ::
      parameters.filters.filter (·.field ≠ some options.tenantField) := by
  rw [confined, owned, confine_tenant nonempty named]

/-- A list of one collection fails and sends nothing, or is confined to the tenant. -/
theorem fetchList_confined (engine : Engine) (collection : String) (request : Request)
    (initial final : List Stage) :
    (((fetchList collection request options initial final).run engine).2.calls = [] ∧
        ∃ failure, ((fetchList collection request options initial final).run engine).1 =
          .error failure) ∨
      ∃ parameters scope, request.parameters = .ok parameters ∧
        (tenantFilter options.tenantField tenant).condition = .ok (some scope) ∧
        ListConfined scope parameters options collection initial final
          ((fetchList collection request options initial final).run engine).2.calls := by
  have run := fetchList_cases engine collection request options initial final
  generalize ((fetchList collection request options initial final).run engine).1 = result at run
  generalize ((fetchList collection request options initial final).run engine).2 = after at run
  cases run with
  | unread => exact .inl ⟨rfl, _, rfl⟩
  | @uncompiled parameters _ _ read run =>
    rw [parameters.confined_eq owned nonempty named] at run
    obtain ⟨_, _, rfl⟩ | ⟨scope, made, rest⟩ := run.confined named
    · exact .inl ⟨rfl, _, rfl⟩
    · obtain ⟨calls, sent, shares⟩ := rest.confined_calls
      exact .inr ⟨parameters, scope, read, made, calls, [], by simpa using sent, shares, .inl rfl⟩
  | @compiled parameters stages between _ _ read run page =>
    rw [parameters.confined_eq owned nonempty named] at run
    obtain ⟨_, ⟨⟩, -⟩ | ⟨scope, made, rest⟩ := run.confined named
    obtain ⟨calls, sent, shares⟩ := rest.confined_calls
    have block := rest.confined_outcome
    rw [Trace.calls_empty, List.nil_append] at sent
    refine .inr ⟨parameters, scope, read, made, calls, ?_⟩
    obtain counted | fetched := page.calls
    · exact ⟨_, by rw [counted, sent], shares, .inr ⟨_, block, .inl rfl⟩⟩
    · exact ⟨_, by rw [fetched, sent], shares, .inr ⟨_, block, .inr rfl⟩⟩

end

/-- Options of a list that is confined to the tenant "shop". -/
def shopOptions : Options := { Options.default with tenant := some "shop" }

/-- An engine that counts forty documents, then four, and then yields no page. -/
def shopEngine : Engine :=
  .scripted [.rows [.object [("total", .int 40)]], .rows [.object [("total", .int 4)]], .rows []]

end QueryPipeline
