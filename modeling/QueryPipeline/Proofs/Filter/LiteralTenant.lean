import QueryPipeline.Proofs.Document.Identifier
import QueryPipeline.Proofs.Filter.Condition
import QueryPipeline.Proofs.Filter.Tenant
import QueryPipeline.Proofs.Text.Pattern

/-!
# Whether the stage of a tenant is literal

The name of a tenant is made literal for a regular expression before it is known whether one will
be made of it. On most fields it is, and the expression stands for the name itself. On a field of
identifiers the name is looked up as it stands, backslashes included, which finds the tenant only
where its name needs none.
-/

namespace QueryPipeline

open Document Pipeline Text Url

/-- A stage selects by a text itself, as it is sent. -/
inductive Pipeline.Stage.SelectsText (field text : String) (stage : Stage) : Prop
  /-- Only the field is asked, and the whole of it for an expression that stands for the text. -/
  | pattern {expression : List Char} (reads : readLiteral? expression = some text.toList)
      (sent : stage.members = [("$match", single field (.object [("$regex",
        .regex (wholeText (String.ofList expression)))]))]) : SelectsText field text stage
  /-- An identifier is looked up, the form of which as a text is the text. -/
  | identifier {identifier : Identifier} (own : identifier.text = text)
      (sent : stage.members = (Stage.select (.identified identifier)).members) :
      SelectsText field text stage

/-- An identifier selects by no other text than its own. -/
theorem selectsText_identified_iff {field text : String} {identifier : Identifier} :
    (Stage.select (.identified identifier)).SelectsText field text ↔ identifier.text = text := by
  constructor
  · intro selects
    cases selects with
    | pattern _ sent =>
      -- Even a field named `$or` cannot pass for the look up, whose argument is an array.
      have same := congrArg (List.map Prod.snd) sent
      exact absurd (List.cons.inj same).1.symm (field_toValue_ne field (.matching _) identifier)
    | identifier own sent =>
      have same := congrArg (List.map Prod.snd) sent
      exact (text_eq_of_toValue (List.cons.inj same).1).trans own
  · exact fun own => .identifier own rfl

/-- The condition of a tenant selects by its name, but on a field of identifiers only where no
character of the name gets a backslash. -/
theorem selectsText_tenant_iff {field tenant : String} {scope : Condition}
    (made : tenantCondition field tenant = .ok scope) :
    (Stage.select scope).SelectsText field tenant ↔
      (field ∈ identifierFields → ∀ c ∈ tenant.toList, isSpecial c = false) := by
  rw [tenantCondition] at made
  by_cases identifies : field ∈ identifierFields
  · rw [if_pos (List.contains_iff_mem.mpr identifies)] at made
    obtain ⟨identifier, read, rfl⟩ := map_eq_ok made
    rw [selectsText_identified_iff, Identifier.text_of_ofText read, ← literal_eq_self_iff,
      forall_prop_of_true identifies, ← String.toList_inj, String.toList_ofList]
  · rw [if_neg (mt List.contains_iff_mem.mp identifies)] at made
    cases made
    exact iff_of_true (.pattern (readLiteral?_literal _) rfl) fun inside =>
      absurd inside identifies

/-- On a field of identifiers the condition of a tenant selects by the expression for its name. -/
theorem selectsText_tenant_escaped {field tenant : String} {scope : Condition}
    (made : tenantCondition field tenant = .ok scope) (identifies : field ∈ identifierFields) :
    (Stage.select scope).SelectsText field (String.ofList (literal tenant.toList)) := by
  rw [tenantCondition, if_pos (List.contains_iff_mem.mpr identifies)] at made
  obtain ⟨identifier, read, rfl⟩ := map_eq_ok made
  exact selectsText_identified_iff.mpr (Identifier.text_of_ofText read)

/-- The stage of a tenant is literal on every field that does not hold identifiers. Whatever the
url, the name of the tenant and the field, the filters compile to stages that start with that of the
tenant. It selects by the name itself, except on a field of identifiers where a character of the
name gets a backslash; there it always selects by the name with its backslashes. -/
theorem tenant_stage_literal_iff {url tenant field : String} (nonempty : tenant ≠ "")
    (named : field ≠ "") {filters : List Filter}
    (read : filtersOfUrl url (some tenant) field = .ok filters) {stages : List Stage}
    (compiled : compile filters = .ok stages) :
    ∃ first rest, stages = first :: rest ∧
      (first.SelectsText field tenant ↔
        (field ∈ identifierFields → ∀ c ∈ tenant.toList, isSpecial c = false)) ∧
      (field ∈ identifierFields →
        first.SelectsText field (String.ofList (literal tenant.toList))) := by
  obtain ⟨parameters, -, rfl⟩ := map_eq_ok read
  rw [confine_tenant nonempty named] at compiled
  obtain ⟨scope, rest, condition, rfl, -⟩ := compile_confined named compiled
  rw [tenantFilter_condition named] at condition
  obtain ⟨_, made, same⟩ := map_eq_ok condition
  cases same
  exact ⟨_, rest, rfl, selectsText_tenant_iff made, selectsText_tenant_escaped made⟩

/-- A name that is full of characters with a meaning, a backslash and a line break among them. -/
def oddTenant : String := "a|b.c$\x5c\n"

/-- The stage of a tenant with such a name is literal on a field that holds no identifiers, and the
filter of a client on this field is left out. -/
theorem odd_tenant_literal :
    oddTenant ≠ "" ∧ "shopDomain" ≠ "" ∧ ∃ filters stages,
      filtersOfUrl "/items?filter=shopDomain|other" (some oddTenant) "shopDomain" =
        .ok filters ∧
      compile filters = .ok stages ∧ ∃ first rest, stages = first :: rest ∧
        first.SelectsText "shopDomain" oddTenant := by
  have nonempty : oddTenant ≠ "" := by decide
  have named : "shopDomain" ≠ "" := by decide
  have read : filtersOfUrl "/items?filter=shopDomain|other" (some oddTenant) "shopDomain" =
      .ok [tenantFilter "shopDomain" oddTenant] :=
    eq_ok_of_toOption (by decide +kernel)
  have compiled : compile [tenantFilter "shopDomain" oddTenant] = .ok _ := rfl
  obtain ⟨first, rest, starts, literal, -⟩ :=
    tenant_stage_literal_iff nonempty named read compiled
  exact ⟨nonempty, named, _, _, read, compiled, first, rest, starts,
    literal.mpr fun inside => absurd inside (by decide)⟩

/-- The tenant of a shop with a dot in its name, on a field of identifiers, is looked up with a
backslash in front of the dot. -/
theorem dotted_tenant_not_literal :
    ∃ filters stages, filtersOfUrl "/items" (some "my.shop") "id" = .ok filters ∧
      compile filters = .ok stages ∧ ∀ first rest, stages = first :: rest →
        ¬first.SelectsText "id" "my.shop" := by
  have read : filtersOfUrl "/items" (some "my.shop") "id" = .ok [tenantFilter "id" "my.shop"] :=
    eq_ok_of_toOption (by decide +kernel)
  have made : tenantCondition "id" "my.shop" = .ok _ := rfl
  have compiled : compile [tenantFilter "id" "my.shop"] = .ok [.select _] := rfl
  refine ⟨_, _, read, compiled, ?_⟩
  rintro first rest ⟨⟩ selects
  have plain := (selectsText_tenant_iff made).mp selects (by decide) '.' (by decide)
  exact absurd plain (by decide)

end QueryPipeline
