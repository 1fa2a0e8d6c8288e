import QueryPipeline.Proofs.Request.Url
import QueryPipeline.Proofs.Url.Query

/-!
# Urls rewritten again and again

A client may rewrite a url many times, setting other parameters each time. Every time the parameters
are read, changed and written, and what is written is read as it was, so only the changes add up:
each step replaces what stands under the keys that it sets, and nothing else is ever touched. It
does not matter whether the rest of the url is still read as the same parts.
-/

namespace QueryPipeline

open Text Url

/-- A text that can be read as a url. -/
def Url.IsReadable (text : String) : Prop := ∃ parts, Url.read text.toList = .ok parts

/-- The parameters of a url that can be read are given. -/
theorem Url.IsReadable.of_readParameters {text : String} {parameters : Parameters}
    (read : readParameters text = .ok parameters) : Url.IsReadable text := by
  obtain ⟨parts, given, -⟩ := map_eq_ok read
  exact ⟨parts, given⟩

/-- A result of which the parameters of a url can be evaluated is given, and the url can be read. -/
theorem Url.exists_isReadable {α : Type} {made : Except Failure α} {url : α → String}
    (found : (made.toOption.bind fun a => (readParameters (url a)).toOption).isSome) :
    ∃ a, made = .ok a ∧ Url.IsReadable (url a) := by
  obtain ⟨parameters, evaluated⟩ := Option.isSome_iff_exists.mp found
  obtain ⟨a, given, read⟩ := Option.bind_eq_some_iff.mp evaluated
  exact ⟨a, eq_ok_of_toOption given, .of_readParameters (eq_ok_of_toOption read)⟩

/-- The parameters of a url that is made by setting parameters, if it can be read, are those of the
url it is made from after the setting. -/
theorem readParameters_buildUrl {base url : String} {options : UrlOptions}
    (built : buildUrl base options = .ok url) (readable : Url.IsReadable url) :
    ∃ existing, readParameters base = .ok existing ∧
      readParameters url = .ok (overriding existing options.parameters) := by
  rw [buildUrl] at built
  split at built
  · obtain ⟨parts, given, rfl⟩ := map_eq_ok built
    obtain ⟨whole, reread⟩ := readable
    obtain ⟨rfl, -⟩ := read_eq_ok given
    obtain ⟨same, -⟩ := read_eq_ok reread
    refine ⟨_, by rw [readParameters, given]; rfl, ?_⟩
    rw [String.toList_ofList] at same
    rw [readParameters, reread, Except.map, ← same, query_split_write base.toList
      (Parameters.not_mem_write rfl (by decide) (by decide) _)
      fun _ => Parameters.isKept_of_mem_write, Parameters.read_write]
  · cases built

/-- Parameters after steps that each set some, the earliest first. -/
def Url.Parameters.rewritten (existing : Parameters) (steps : List UrlOptions) : Parameters :=
  steps.foldl (fun parameters options => parameters.replacing options.entries) existing

namespace Url.Parameters

variable {existing : Parameters} {steps : List UrlOptions}

/-- The first step comes before the others. -/
theorem rewritten_cons (existing : Parameters) (options : UrlOptions) (rest : List UrlOptions) :
    existing.rewritten (options :: rest) = (existing.replacing options.entries).rewritten rest :=
  rfl

/-- Steps in two parts come one part after the other. -/
theorem rewritten_append (existing : Parameters) (earlier later : List UrlOptions) :
    existing.rewritten (earlier ++ later) = (existing.rewritten earlier).rewritten later :=
  List.foldl_append

/-- Steps leave what stands under keys of a class that none of them sets. -/
theorem filter_rewritten {inside : String → Bool}
    (other : ∀ options ∈ steps, ∀ key, gives options.entries key = true → inside key = false) :
    (existing.rewritten steps).filter (inside ·.1) = existing.filter (inside ·.1) := by
  induction steps generalizing existing with
  | nil => rfl
  | cons options rest ih =>
    rw [List.forall_mem_cons] at other
    have outside : ∀ pair ∈ ofValues options.entries, inside pair.1 = false :=
      fun pair mem => other.1 pair.1 (gives_of_mem_ofValues mem)
    rw [rewritten_cons, ih other.2, ← overriding_ofValues, filter_overriding outside]

/-- Under a key that a step sets and no later step does stand the values that the step sets. -/
theorem all_rewritten {earlier later : List UrlOptions} {options : UrlOptions} {key : String}
    {values : List String} (set : (key, values) ∈ options.entries) (some : values ≠ [])
    (last : ∀ next ∈ later, gives next.entries key = false) :
    (existing.rewritten (earlier ++ options :: later)).all key = values := by
  have outside : ∀ next ∈ later, ∀ other, gives next.entries other = true →
      (other == key) = false := by
    intro next inside other given
    refine beq_false_of_ne fun same => ?_
    rw [same, last next inside] at given
    cases given
  have values_eq : (ofValues options.entries).all key = values :=
    all_ofValues options.nodup_entries set
  rw [rewritten_append, rewritten_cons, all, @filter_rewritten _ later (· == key) outside, ← all,
    ← overriding_ofValues, all_overriding_eq, values_eq, if_neg some]

end Url.Parameters

/-- The first of several steps makes the url that the others start from. -/
theorem buildUrls_cons {base url : String} {options : UrlOptions} {rest : List UrlOptions}
    {urls : List String} (first : buildUrl base options = .ok url)
    (others : buildUrls url rest = .ok urls) :
    buildUrls base (options :: rest) = .ok (url :: urls) := by
  simp only [buildUrls, first, others, bind, Except.bind]

/-- The parameters of the last of the urls that steps make one after another, if it can be read, are
those of the first url after the steps. -/
theorem readParameters_buildUrls {base : String} {steps : List UrlOptions} {urls : List String}
    (built : buildUrls base steps = .ok urls) (readable : Url.IsReadable (urls.getLastD base)) :
    ∃ existing, readParameters base = .ok existing ∧
      readParameters (urls.getLastD base) = .ok (existing.rewritten steps) := by
  induction steps generalizing base urls with
  | nil =>
    cases built
    obtain ⟨parts, given⟩ := readable
    have read : readParameters base = .ok (Parameters.read parts.query) := by
      rw [readParameters, show Url.read base.toList = .ok parts from given]
      rfl
    exact ⟨_, read, read⟩
  | cons options rest ih =>
    obtain ⟨url, first, others⟩ := bind_eq_ok built
    obtain ⟨later, following, same⟩ := bind_eq_ok others
    cases same
    rw [List.getLastD_cons] at readable ⊢
    obtain ⟨between, read, final⟩ := ih following readable
    obtain ⟨existing, start, next⟩ :=
      readParameters_buildUrl first (Url.IsReadable.of_readParameters read)
    obtain rfl := Except.ok.inj (read.symm.trans next)
    rw [options.parameters_eq, overriding_ofValues, ← Parameters.rewritten_cons] at final
    exact ⟨existing, start, final⟩

/-- What a sequence of rewritings makes of the parameters of a url. The last url has the parameters
of the first after the steps in order, each of which removes what stands under the keys that it sets
and puts its own pairs at the end. So what stands under keys that no step sets is left as it is,
with its repetitions, its empty values and its order; without any key set, that is everything. And
under a key that is set stand the values that the last step to set it has given. -/
theorem rewriting_replaces_set_keys {base : String} {steps : List UrlOptions} {urls : List String}
    (built : buildUrls base steps = .ok urls) (readable : Url.IsReadable (urls.getLastD base)) :
    ∃ existing final, readParameters base = .ok existing ∧
      readParameters (urls.getLastD base) = .ok final ∧ final = existing.rewritten steps ∧
      (∀ inside : String → Bool,
        (∀ options ∈ steps, ∀ key,
          Parameters.gives options.entries key = true → inside key = false) →
          final.filter (inside ·.1) = existing.filter (inside ·.1)) ∧
      ∀ earlier options later, steps = earlier ++ options :: later →
        ∀ key values, (key, values) ∈ options.entries → values ≠ [] →
          (∀ next ∈ later, Parameters.gives next.entries key = false) →
            final.all key = values := by
  obtain ⟨existing, start, final⟩ := readParameters_buildUrls built readable
  refine ⟨existing, _, start, final, rfl, fun inside other => Parameters.filter_rewritten other, ?_⟩
  rintro earlier options later rfl key values set some last
  exact Parameters.all_rewritten set some last

/-- A url whose path would be taken for an authority, with parameters that are repeated, empty,
escaped wrongly or without a value. -/
def tangledUrl : String := "////shop/items?page=1&lang=de&lang=&%zz&p%61ge=7&x=%FF+y#top"

/-- The second page by name, with a filter and an identifier. -/
def secondPage : UrlOptions := ⟨some 2, none, some "name", ["b|&="], some "7", false, false⟩

/-- The third page of all that is sold in another order, counted only and without an identifier. -/
def soldPage : UrlOptions := ⟨some 3, some 10, some "price|desc", ["sold"], some "", true, true⟩

/-- The tangled url after a rewriting that sets nothing. -/
def plainUrl : String := "//shop/items?page=1&lang=de&lang=&%25zz=&page=7&x=%EF%BF%BD+y#top"

/-- The url of the second page. -/
def secondUrl : String :=
  "//shop/items?lang=de&lang=&%25zz=&x=%EF%BF%BD+y&page=2&sort=name&filter=b%7C%26%3D&id=7#top"

/-- The url of the third page of all that is sold. -/
def soldUrl : String :=
  "//shop/items?lang=de&lang=&%25zz=&x=%EF%BF%BD+y&id=7&page=3&limit=10&sort=price%7Cdesc" ++
    "&filter=sold&export=true&countResultOnly=true#top"

/-- Three rewritings, the first of which sets nothing, leave the foreign parameters of the tangled
url, and also the identifier that the second has set. All the rest is that of the last. -/
theorem tangled_url_rewritten :
    let steps := [.none, secondPage, soldPage]
    let urls := [plainUrl, secondUrl, soldUrl]
    buildUrls tangledUrl steps = .ok urls ∧ Url.IsReadable (urls.getLastD tangledUrl) ∧
      ∃ existing final, readParameters tangledUrl = .ok existing ∧
        readParameters (urls.getLastD tangledUrl) = .ok final ∧
        final = existing.rewritten steps ∧
        final = [("lang", "de"), ("lang", ""), ("%zz", ""), ("x", "\uFFFD y"), ("id", "7"),
          ("page", "3"), ("limit", "10"), ("sort", "price|desc"), ("filter", "sold"),
          ("export", "true"), ("countResultOnly", "true")] ∧
        final.all "filter" = ["sold"] := by
  have first : buildUrl tangledUrl .none = .ok plainUrl := eq_ok_of_toOption (by decide +kernel)
  have second : buildUrl plainUrl secondPage = .ok secondUrl :=
    eq_ok_of_toOption (by decide +kernel)
  have third : buildUrl secondUrl soldPage = .ok soldUrl := eq_ok_of_toOption (by decide +kernel)
  have built : buildUrls tangledUrl [.none, secondPage, soldPage] =
      .ok [plainUrl, secondUrl, soldUrl] :=
    buildUrls_cons first (buildUrls_cons second (buildUrls_cons third rfl))
  have read : readParameters soldUrl = .ok [("lang", "de"), ("lang", ""), ("%zz", ""),
      ("x", "\uFFFD y"), ("id", "7"), ("page", "3"), ("limit", "10"), ("sort", "price|desc"),
      ("filter", "sold"), ("export", "true"), ("countResultOnly", "true")] :=
    eq_ok_of_toOption (by decide +kernel)
  have readable : Url.IsReadable soldUrl := .of_readParameters read
  obtain ⟨existing, final, before, after, rewritten, -, set⟩ :=
    rewriting_replaces_set_keys built readable
  have sold : ("filter", ["sold"]) ∈ soldPage.entries := by
    simp [UrlOptions.entries, soldPage, filterKey]
  have filters := set [.none, secondPage] soldPage [] rfl "filter" ["sold"] sold
    (List.cons_ne_nil _ _) (List.forall_mem_nil _)
  have same := Except.ok.inj (after.symm.trans read)
  exact ⟨built, readable, existing, final, before, after, rewritten, same, filters⟩

end QueryPipeline
