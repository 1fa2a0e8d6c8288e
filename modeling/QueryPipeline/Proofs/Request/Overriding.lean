import QueryPipeline.Proofs.Number.Written
import QueryPipeline.Request.Url

/-!
# Parameters that are set

Each parameter that a client sets replaces what a url held under its key, and only that. So what is
read under a key is what is set there, if anything is, and what was there otherwise; a request that
is read of parameters that were set differs from the one before in the members that are set. The
rule is stated on keys and their values, and the pairs that a client makes are shown to follow it.
-/

namespace QueryPipeline

open Number Text Url

namespace Url.Parameters

/-- The pairs of values under keys in order. -/
def ofValues (entries : List (String × List String)) : Parameters :=
  entries.flatMap fun entry => entry.2.map (entry.1, ·)

/-- Whether some value is given under a key. -/
def gives (entries : List (String × List String)) (key : String) : Bool :=
  entries.any fun entry => entry.1 == key && !entry.2.isEmpty

/-- The parameters after values under keys have replaced all that stood under these keys. The pairs
of the values come last, in order. A key without a value is left as it is. -/
def replacing (parameters : Parameters) (entries : List (String × List String)) : Parameters :=
  parameters.filter (fun pair => !gives entries pair.1) ++ ofValues entries

variable {parameters : Parameters} {entries : List (String × List String)} {key : String}

/-- Under a key that no pair has stands nothing. -/
theorem all_eq_nil (other : ∀ pair ∈ parameters, pair.1 ≠ key) : parameters.all key = [] := by
  rw [all, List.map_eq_nil_iff, List.filter_eq_nil_iff]
  exact fun pair mem same => other pair mem (eq_of_beq same)

/-- What stands under one key of two lists of parameters stands there in order. -/
theorem all_append (first second : Parameters) (key : String) :
    all (first ++ second) key = first.all key ++ second.all key := by
  rw [all, List.filter_append, List.map_append, ← all, ← all]

/-- Under the key of some values stand the values. -/
theorem all_map_self (key : String) (values : List String) :
    all (values.map (key, ·)) key = values := by
  have every : ∀ pair ∈ values.map (key, ·), (pair.1 == key) = true :=
    List.forall_mem_map.mpr fun _ _ => beq_self_eq_true key
  rw [all, List.filter_eq_self.mpr every, List.map_map]
  exact List.map_id values

/-- Pairs of values have the keys of the values. -/
theorem mem_keys_of_mem_ofValues {pair : String × String} (mem : pair ∈ ofValues entries) :
    pair.1 ∈ entries.map (·.1) := by
  obtain ⟨entry, inside, holds⟩ := List.mem_flatMap.mp mem
  obtain ⟨value, -, rfl⟩ := List.mem_map.mp holds
  exact List.mem_map_of_mem inside

/-- The pairs of values have the keys under which some value is given. -/
theorem any_ofValues (entries : List (String × List String)) (key : String) :
    ((ofValues entries).any fun pair => pair.1 == key) = gives entries key := by
  rw [ofValues, List.any_flatMap, gives]
  refine congrArg entries.any (funext fun entry => ?_)
  rw [List.any_map]
  cases entry.2 <;> simp [Function.comp_def]

/-- Under the key of a pair of values some value is given. -/
theorem gives_of_mem_ofValues {pair : String × String} (mem : pair ∈ ofValues entries) :
    gives entries pair.1 = true := by
  rw [← any_ofValues, List.any_eq_true]
  exact ⟨pair, mem, beq_self_eq_true _⟩

/-- Under a key that is given once stand the values that it is given with. -/
theorem all_ofValues (distinct : (entries.map (·.1)).Nodup) {entry : String × List String}
    (mem : entry ∈ entries) : (ofValues entries).all entry.1 = entry.2 := by
  induction entries with
  | nil => cases mem
  | cons first others ih =>
    rw [List.map_cons, List.nodup_cons] at distinct
    rw [ofValues, List.flatMap_cons, ← ofValues, all_append]
    obtain rfl | later := List.mem_cons.mp mem
    · have absent : (ofValues others).all entry.1 = [] :=
        all_eq_nil fun pair inside same => distinct.1 (same ▸ mem_keys_of_mem_ofValues inside)
      rw [all_map_self, absent, List.append_nil]
    · have other : first.1 ≠ entry.1 := fun same => distinct.1 (same ▸ List.mem_map_of_mem later)
      have absent : all (first.2.map (first.1, ·)) entry.1 = [] :=
        all_eq_nil (List.forall_mem_map.mpr fun _ _ => other)
      rw [absent, List.nil_append, ih distinct.2 later]

end Url.Parameters

/-- Whether a key is set depends on the keys alone. -/
theorem any_key_eq {first second : Parameters} (keys : first.map (·.1) = second.map (·.1))
    (key : String) : (first.any fun set => set.1 == key) = second.any fun set => set.1 == key := by
  have same := congrArg (List.any · (· == key)) keys
  simpa [List.any_map, Function.comp_def] using same

/-- Setting parameters again leaves nothing of those that were set under the same keys. -/
theorem overriding_overriding {existing first second : Parameters}
    (keys : first.map (·.1) = second.map (·.1)) :
    overriding (overriding existing first) second = overriding existing second := by
  have dropped : first.filter (fun pair => !second.any (·.1 == pair.1)) = [] := by
    refine List.filter_eq_nil_iff.mpr fun pair mem => ?_
    have set : first.any (·.1 == pair.1) = true :=
      List.any_eq_true.mpr ⟨pair, mem, beq_self_eq_true _⟩
    rw [← any_key_eq keys, set]
    decide
  have kept : (existing.filter fun pair => !first.any (·.1 == pair.1)).filter
      (fun pair => !second.any (·.1 == pair.1)) =
        existing.filter fun pair => !second.any (·.1 == pair.1) := by
    rw [List.filter_filter]
    refine List.filter_congr fun pair _ => ?_
    rw [any_key_eq keys, Bool.and_self]
  rw [overriding, overriding, List.filter_append, dropped, List.append_nil, kept, overriding]

/-- Setting parameters leaves those under keys of a class that none of them belongs to. -/
theorem filter_overriding {existing set : Parameters} {inside : String → Bool}
    (other : ∀ pair ∈ set, inside pair.1 = false) :
    (overriding existing set).filter (inside ·.1) = existing.filter (inside ·.1) := by
  have none : set.filter (inside ·.1) = [] :=
    List.filter_eq_nil_iff.mpr fun pair mem => by simp [other pair mem]
  have kept : (existing.filter fun pair => !set.any (·.1 == pair.1)).filter (inside ·.1) =
      existing.filter (inside ·.1) := by
    rw [List.filter_filter]
    refine List.filter_congr fun pair _ => ?_
    cases same : inside pair.1 with
    | false => rfl
    | true =>
      have unset : set.any (·.1 == pair.1) = false := by
        refine List.any_eq_false.mpr fun found mem equal => ?_
        have outside := other found mem
        rw [eq_of_beq equal, same] at outside
        cases outside
      rw [unset]
      rfl
  rw [overriding, List.filter_append, none, List.append_nil, kept]

/-- To set the pairs of values under keys is to replace what stands under these keys. -/
theorem overriding_ofValues (existing : Parameters) (entries : List (String × List String)) :
    overriding existing (.ofValues entries) = existing.replacing entries := by
  rw [overriding, Parameters.replacing]
  simp only [Parameters.any_ofValues]

/-- Setting parameters leaves those under other keys. -/
theorem all_overriding {existing set : Parameters} {key : String}
    (other : ∀ pair ∈ set, pair.1 ≠ key) :
    (overriding existing set).all key = existing.all key := by
  have outside : ∀ pair ∈ set, (pair.1 == key) = false :=
    fun pair mem => beq_false_of_ne (other pair mem)
  exact congrArg (List.map Prod.snd) (@filter_overriding existing set (· == key) outside)

/-- Setting parameters under a key leaves nothing else under it. -/
theorem all_overriding_of_mem {existing set : Parameters} {pair : String × String}
    (mem : pair ∈ set) : (overriding existing set).all pair.1 = set.all pair.1 := by
  have dropped : (existing.filter fun other => !set.any (·.1 == other.1)).filter
      (·.1 == pair.1) = [] := by
    refine List.filter_eq_nil_iff.mpr fun other inside same => ?_
    have unset := (List.mem_filter.mp inside).2
    rw [eq_of_beq same, List.any_eq_true.mpr ⟨pair, mem, beq_self_eq_true pair.1⟩] at unset
    cases unset
  rw [Parameters.all, Parameters.all, overriding, List.filter_append, dropped, List.nil_append]

/-- What is found under a key is what is set there, if anything is, or else what was there. -/
theorem all_overriding_eq (existing set : Parameters) (key : String) :
    (overriding existing set).all key =
      if set.all key = [] then existing.all key else set.all key := by
  by_cases held : ∃ pair ∈ set, pair.1 = key
  · obtain ⟨pair, mem, rfl⟩ := held
    have found : pair.2 ∈ set.all pair.1 :=
      List.mem_map_of_mem (List.mem_filter.mpr ⟨mem, beq_self_eq_true _⟩)
    rw [if_neg (List.ne_nil_of_mem found), all_overriding_of_mem mem]
  · have other : ∀ pair ∈ set, pair.1 ≠ key := fun pair mem same => held ⟨pair, mem, same⟩
    rw [if_pos (Parameters.all_eq_nil other), all_overriding other]

/-- The last value under a key is the last one that is set there, if any is. -/
theorem last?_overriding (existing set : Parameters) (key : String) :
    (overriding existing set).last? key = (set.last? key).or (existing.last? key) := by
  rw [Parameters.last?, all_overriding_eq, Parameters.last?]
  split
  · next none => rw [none, List.getLast?_nil, Option.none_or, Parameters.last?]
  · next some =>
    obtain ⟨value, last⟩ := Option.isSome_iff_exists.mp (List.getLast?_isSome.mpr some)
    rw [last, Option.some_or]

/-- The last of the one value that there may be is that value. -/
theorem getLast?_toList {α : Type} (value : Option α) : value.toList.getLast? = value := by
  cases value <;> rfl

namespace UrlOptions

variable (set : UrlOptions)

/-- The value of a flag that is set. -/
def flagValue (flag : Bool) : Option String := if flag then some "true" else .none

/-- What a client sets under each key. -/
def entries : List (String × List String) :=
  [(pageKey, (set.page.map decimalString).toList), (limitKey, (set.limit.map decimalString).toList),
    (sortKey, (nonEmpty set.sort).toList), (filterKey, set.filters),
    (idKey, (nonEmpty set.id).toList), (unpagedKey, (flagValue set.unpaged).toList),
    (countOnlyKey, (flagValue set.countOnly).toList)]

/-- The pairs that a client sets are what it sets under each key. -/
theorem parameters_eq : set.parameters = .ofValues set.entries := by
  have number : ∀ key n, numberPair key n = (n.map decimalString).toList.map (key, ·) := by
    rintro key (_ | n) <;> rfl
  have text : ∀ key value, textPair key value = (nonEmpty value).toList.map (key, ·) := by
    intro key value
    rw [textPair]
    cases nonEmpty value <;> rfl
  have flag : ∀ key value, flagPair key value = (flagValue value).toList.map (key, ·) := by
    rintro key (_ | _) <;> rfl
  rw [parameters, number, number, text, text, flag, flag]
  simp [Parameters.ofValues, entries]

/-- Each key is set once. -/
theorem nodup_entries : (set.entries.map (·.1)).Nodup := by
  change [pageKey, limitKey, sortKey, filterKey, idKey, unpagedKey, countOnlyKey].Nodup
  decide

variable {set}

/-- All that is found under a key after the setting. -/
theorem all_overriding_parameters {entry : String × List String} (mem : entry ∈ set.entries)
    (existing : Parameters) : (overriding existing set.parameters).all entry.1 =
      if entry.2 = [] then existing.all entry.1 else entry.2 := by
  rw [all_overriding_eq, parameters_eq, Parameters.all_ofValues (nodup_entries set) mem]

/-- The last value that is found under a key after the setting. -/
theorem last?_overriding_parameters (existing : Parameters) {key : String} (value : Option String)
    (mem : (key, value.toList) ∈ set.entries) :
    (overriding existing set.parameters).last? key = value.or (existing.last? key) := by
  rw [last?_overriding, Parameters.last?, parameters_eq,
    Parameters.all_ofValues (nodup_entries set) mem, getLast?_toList]

variable (set)

/-- A request of a list after a client has set parameters: the members that are set, within the
bounds of the list, and those of the request before. -/
def applyTo (options : Options) (request : PageRequest) : PageRequest :=
  let sort := ((nonEmpty set.sort).map sortParts).getD (request.sortField, request.sortDirection)
  { page := (set.page.map (max · 1)).getD request.page
    limit := (set.limit.map (min · options.limit)).getD request.limit
    sortField := sort.1
    sortDirection := sort.2
    filters := if set.filters = [] then request.filters else set.filters
    id := (nonEmpty set.id).or request.id
    unpaged := set.unpaged || request.unpaged
    countOnly := set.countOnly || request.countOnly }

end UrlOptions

/-- The number of a page is read as it was written. -/
theorem integerOr_decimalString {n : Int} (default : Int) (writable : isWritable n = true) :
    integerOr default (some (decimalString n)) = n := by
  rw [integerOr, decimalString, String.toList_ofList, readInteger_decimal writable]

/-- A number that may be set is read as what is set, or else as before. -/
theorem integerOr_or {n : Option Int} (writable : n.all isWritable = true) (default : Int)
    (value : Option String) :
    integerOr default ((n.map decimalString).or value) = n.getD (integerOr default value) := by
  cases n with
  | none => rfl
  | some n =>
    rw [Option.all_some] at writable
    rw [Option.map_some, Option.some_or, integerOr_decimalString default writable, Option.getD_some]

/-- What is left of a text that is not empty is the text. -/
theorem nonEmpty_nonEmpty (text : Option String) : nonEmpty (nonEmpty text) = nonEmpty text := by
  cases text with
  | none => rfl
  | some text =>
    rw [nonEmpty]
    split
    · rfl
    · next some => rw [nonEmpty, if_neg some]

/-- A text that may be set is read as what is set, or else as before. -/
theorem nonEmpty_or (text value : Option String) :
    nonEmpty ((nonEmpty text).or value) = (nonEmpty text).or (nonEmpty value) := by
  cases found : nonEmpty text with
  | none => rfl
  | some text => rw [Option.some_or, Option.some_or, ← found, nonEmpty_nonEmpty]

/-- A flag that may be set is on if it is set, or else as before. -/
theorem isFlagSet_or (flag : Bool) (value : Option String) :
    isFlagSet ((UrlOptions.flagValue flag).or value) = (flag || isFlagSet value) := by
  cases flag with
  | false => rfl
  | true =>
    have on : isFlagSet (some "true") = true := by decide
    exact on

/-- A sort that may be set is cut where what is set is, or else as before. -/
theorem sortParts_or (text value : Option String) :
    sortParts ((text.or value).getD "") =
      (text.map sortParts).getD (sortParts (value.getD "")) := by
  cases text <;> rfl

open UrlOptions in
/-- Setting parameters changes the members of a request that are set, and nothing else. -/
theorem ofParameters_overriding {set : UrlOptions} (written : set.canBeWritten = true)
    (existing : Parameters) (options : Options) :
    PageRequest.ofParameters (overriding existing set.parameters) options =
      set.applyTo options (PageRequest.ofParameters existing options) := by
  rw [canBeWritten, Bool.and_eq_true] at written
  have filters : (filterKey, set.filters) ∈ set.entries := by simp [entries]
  have page : ∀ n : Int, max (set.page.getD n) 1 = (set.page.map (max · 1)).getD (max n 1) := by
    cases set.page <;> exact fun _ => rfl
  have limit : ∀ n : Int, min (set.limit.getD n) options.limit =
      (set.limit.map (min · options.limit)).getD (min n options.limit) := by
    cases set.limit <;> exact fun _ => rfl
  -- each member is looked up under its own key
  rw [PageRequest.ofParameters, all_overriding_parameters filters,
    last?_overriding_parameters existing (set.page.map decimalString) (by simp [entries]),
    last?_overriding_parameters existing (set.limit.map decimalString) (by simp [entries]),
    last?_overriding_parameters existing (nonEmpty set.sort) (by simp [entries]),
    last?_overriding_parameters existing (nonEmpty set.id) (by simp [entries]),
    last?_overriding_parameters existing (flagValue set.unpaged) (by simp [entries]),
    last?_overriding_parameters existing (flagValue set.countOnly) (by simp [entries])]
  -- and read as what is set or as before
  rw [integerOr_or written.1, integerOr_or written.2, sortParts_or, nonEmpty_or, isFlagSet_or,
    isFlagSet_or, page, limit]
  rfl

end QueryPipeline
