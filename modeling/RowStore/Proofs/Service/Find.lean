import RowStore.Proofs.Service.Get

/-!
# Finding rows

A find counts all rows that match a query and gives those of one page. What it then says of the page follows from the
number of rows that match, the policy and the controls of the query, and of these only the bounds.
-/

namespace RowStore

set_option autoImplicit false

/-- The controls of a query under a policy: only the limit is another one. -/
def Controls.under (controls : Controls) (policy : Policy) : Controls :=
  { controls with limit := policy.resolve controls.limit }

theorem Query.ofFields_some (fields : Fields) (policy : Policy) :
    ofFields fields (some policy)
      = (ofFields fields none).map fun q => ⟨q.controls.under policy, q.predicate⟩ := by
  unfold ofFields
  cases fields.foldlM Controls.read Controls.none <;> rfl

theorem Controls.length_page (controls : Controls) (rows : List Record) :
    (controls.page rows).length
      = min (controls.limit.getD rows.length) (rows.length - min (controls.skip.getD 0) rows.length) := by
  unfold page
  by_cases hzero : controls.limit = some 0
  -- A page of no rows is not sliced, but no rows are what the slice would have.
  · simp [hzero]
  · rw [if_neg hzero, Table.length_slice, Table.length_sortRows]
    cases controls.limit with
    | none =>
      simp only [Option.getD_none]
      omega
    | some limit =>
      simp only [Option.getD_some]
      omega

def Table.satisfying (table : Table) (clause : Clause) : List Record :=
  table.rows.filter fun row => clause.holds row

/-- The plans of a query count the rows of which its clause holds, and fetch unless the limit is zero. -/
theorem Plan.of_ofQuery {key : String} {q : Query} {clause : Clause} {plans : Plans} (h : ofQuery key q = .ok plans)
    (hc : Clause.compile q.predicate = .ok clause) (table : Table) :
    table.count plans.unbounded = (table.satisfying clause).length ∧
      (plans.paginated = none ↔ q.controls.limit = some 0) := by
  rw [ofQuery, hc] at h
  cases h
  refine ⟨rfl, ?_⟩
  by_cases hzero : q.controls.limit = some 0 <;> simp [hzero]

/-- A page of some rows, as a policy and the controls of a query make it. -/
structure Page.Of (key : String) (policy : Policy) (controls : Controls) (rows : List Record) (page : Page) : Prop where
  total_eq : page.total = rows.length
  limit_eq : ∃ size, policy.defaultSize = some size ∧ page.limit = match policy.maxSize with
    | some most => min (controls.limit.getD size) most
    | none => controls.limit.getD size
  limit_le : ∀ most, policy.maxSize = some most → page.limit ≤ most
  skip_eq : page.skip = controls.skip.getD 0
  data_eq : page.data = ((controls.under policy).page rows).map (controls.shown key)
  length_data : page.data.length = min page.limit (page.total - min page.skip page.total)

theorem Page.of_enabled {policy : Policy} (h : policy.enabled = true) (key : String) (controls : Controls)
    (rows : List Record) :
    Page.Of key policy controls rows ⟨rows.length, (controls.under policy).limit.getD 0, controls.skip.getD 0,
      ((controls.under policy).page rows).map (controls.shown key)⟩ := by
  obtain ⟨size, hsize, hresolve⟩ := Policy.resolve_of_enabled h controls.limit
  have hlimit : (controls.under policy).limit = some (policy.cap (controls.limit.getD size)) := hresolve
  refine ⟨rfl, ⟨size, hsize, ?_⟩, ?_, rfl, rfl, ?_⟩
  · rw [hlimit]
    rfl
  · intro most hmost
    rw [hlimit, Policy.cap, hmost]
    exact Nat.min_le_right _ _
  · rw [List.length_map, Controls.length_page, hlimit]
    rfl

/-- The requests of a find: all rows that match are counted, and those of the page are fetched. -/
def Plans.requests (plans : Plans) : List Storage.Request :=
  .count plans.unbounded :: (plans.paginated.map .fetch).toList

/-- The same service, with a storage that writes its requests down. -/
def Service.watched {σ : Type} (service : Service σ) : Service (Storage.Watched σ) :=
  { service with storage := service.storage.watched [] }

namespace Service

/-- The policy of a call: its own one, or that of the service. -/
def policyOf {σ : Type} (service : Service σ) (params : Params) : Policy :=
  params.policy.getD service.policy

/-- What is fetched, as a policy gives it to the caller. -/
def Fetched.selection (policy : Policy) (found : Fetched) : Selection :=
  if policy.enabled then .page ⟨found.total, found.limit.getD 0, found.skip.getD 0, found.rows⟩
  else .rows found.rows

theorem find_on_ok {σ : Type} {service : Service σ} {params : Params} {found : Fetched} {s s' : σ}
    (h : (service.findRows params.query (some (service.policyOf params))).on s = (.ok found, s')) :
    (service.find params).on s = (.ok (found.selection (service.policyOf params)), s') := by
  have hselection : (service.findSelection params).on s = (.ok (found.selection (service.policyOf params)), s') := by
    unfold findSelection
    refine (Action.on_bind_ok _ h).trans ?_
    unfold Fetched.selection policyOf
    split <;> rfl
  rw [find, on_report, hselection]

theorem find_on_error {σ : Type} {service : Service σ} {params : Params} {e : ServiceError} {s s' : σ}
    (h : (service.findRows params.query (some (service.policyOf params))).on s = (.error e, s')) :
    (service.find params).on s = (.error (service.hook e), s') := by
  have hselection : (service.findSelection params).on s = (.error e, s') := Action.on_bind_error _ h
  rw [find, on_report, hselection]

section

variable {service : Service Table} {params : Params} {q : Query} {clause : Clause} {table : Table}

/-- Writing the requests down changes nothing else. -/
theorem findRows_watched (hs : service.storage = Table.storage) {query : Fields} {policy : Option Policy} {plans : Plans}
    (hq : Query.ofFields query policy = .ok q) (hp : Plan.ofQuery service.id q = .ok plans) (table : Table) :
    (service.watched.findRows query policy).on ⟨[], table⟩
      = (.ok ⟨table.count plans.unbounded, q.controls.limit, q.controls.skip, pageRows table plans⟩,
          ⟨plans.requests, table⟩) := by
  have hwatched : service.watched.storage = Table.storage.watched [] := congrArg (Storage.watched · []) hs
  have hcount : service.watched.storage.count plans.unbounded ⟨[], table⟩
      = (.ok (table.count plans.unbounded), ⟨[.count plans.unbounded], table⟩) := by
    rw [hwatched]
    rfl
  have hplans : Plan.ofQuery service.watched.id q = .ok plans := hp
  apply findRows_of_answers hq hplans hcount
  · rw [hwatched, pageRows, Plans.requests]
    cases plans.paginated with
    | none => exact ⟨rfl, rfl⟩
    | some plan => rfl

def found (service : Service Table) (params : Params) (controls : Controls) (rows : List Record) : Selection :=
  Fetched.selection (service.policyOf params) ⟨rows.length, (controls.under (service.policyOf params)).limit,
    controls.skip, ((controls.under (service.policyOf params)).page rows).map (controls.shown service.id)⟩

theorem find_on_of_query (hs : service.storage = Table.storage) (hq : Query.ofFields params.query none = .ok q)
    (hc : Clause.compile q.predicate = .ok clause) (table : Table) :
    (service.find params).on table = (.ok (service.found params q.controls (table.satisfying clause)), table) ∧
      ∃ plans, (plans.paginated = none ↔ (q.controls.under (service.policyOf params)).limit = some 0) ∧
        (service.watched.find params).on ⟨[], table⟩
          = (.ok (service.found params q.controls (table.satisfying clause)), ⟨Plans.requests plans, table⟩) := by
  -- The policy is settled when the query is read, so the plans are those of the controls under it.
  have hunder := Query.ofFields_some params.query (service.policyOf params)
  rw [hq] at hunder
  obtain ⟨plans, hplans, hrows⟩ := pageRows_ofQuery service.id
    (q := ⟨q.controls.under (service.policyOf params), q.predicate⟩) hc table
  obtain ⟨htotal, hpaginated⟩ := Plan.of_ofQuery hplans hc table
  have hfound := findRows_on hs hunder hplans table
  have hwatched := findRows_watched hs hunder hplans table
  rw [htotal, hrows] at hfound hwatched
  exact ⟨find_on_ok hfound, plans, hpaginated, find_on_ok hwatched⟩

/-- A find gives something unless its query is faulty, and leaves the table. -/
theorem find_cases (hs : service.storage = Table.storage) (params : Params) (table : Table) :
    (∃ e, (service.find params).on table = (.error e, table)) ∨
      ∃ q clause, Query.ofFields params.query none = .ok q ∧ Clause.compile q.predicate = .ok clause := by
  rcases findRows_cases hs params.query (some (service.policyOf params)) table with
    ⟨fault, hfault⟩ | ⟨q', plans, hq', hplans, _⟩
  · exact .inl ⟨_, find_on_error hfault⟩
  · rw [Query.ofFields_some] at hq'
    cases hq : Query.ofFields params.query none with
    | error e =>
      rw [hq] at hq'
      cases hq'
    | ok q =>
      rw [hq] at hq'
      cases hq'
      obtain ⟨clause, hc⟩ := Plan.exists_clause hplans
      exact .inr ⟨q, clause, rfl, hc⟩

theorem total_of_find (hs : service.storage = Table.storage) {page : Page}
    (h : (service.find params).on table = (.ok (.page page), table)) :
    ∃ clause, Clause.compile (Query.predicateOf params.query) = .ok clause ∧
      page.total = (table.satisfying clause).length := by
  rcases find_cases hs params table with ⟨e, he⟩ | ⟨q, clause, hq, hc⟩
  · rw [he] at h
    cases h
  · rw [(find_on_of_query hs hq hc table).1, found, Fetched.selection] at h
    rw [Query.predicate_ofFields hq] at hc
    refine ⟨clause, hc, ?_⟩
    split at h
    · cases h
      rfl
    · cases h

/-- A find over a table leaves it, and gives something just when the query can be read and its predicate has a clause.
Under a policy that makes pages it gives a page of the rows that satisfy the predicate; else it gives the rows that the
bounds of the query leave. Nothing but these rows is asked for, and none if the limit is zero. What a page says of all
rows that match does not depend on the controls. -/
theorem find_on (hs : service.storage = Table.storage) (params : Params) (table : Table) :
    ((service.find params).on table).2 = table ∧
    ((∃ selection, (service.find params).on table = (.ok selection, table)) ↔
      ∃ q clause, Query.ofFields params.query none = .ok q ∧
        Clause.compile (Query.predicateOf params.query) = .ok clause) ∧
    (∀ q clause, Query.ofFields params.query none = .ok q →
      Clause.compile (Query.predicateOf params.query) = .ok clause →
      (∀ row : Record, clause.holds row = true ↔ Predicate.Satisfied row (Query.predicateOf params.query)) ∧
      ∃ selection plans, (service.find params).on table = (.ok selection, table) ∧
        (service.watched.find params).on ⟨[], table⟩ = (.ok selection, ⟨Plans.requests plans, table⟩) ∧
        ((service.policyOf params).enabled = true → ∃ page, selection = .page page ∧
          page.Of service.id (service.policyOf params) q.controls (table.satisfying clause) ∧
          (plans.paginated = none ↔ page.limit = 0)) ∧
        ((service.policyOf params).enabled = false → ∃ rows, selection = .rows rows ∧
          rows = (q.controls.page (table.satisfying clause)).map (q.controls.shown service.id) ∧
          rows.length = min (q.controls.limit.getD (table.satisfying clause).length)
            ((table.satisfying clause).length - min (q.controls.skip.getD 0) (table.satisfying clause).length) ∧
          (plans.paginated = none ↔ q.controls.limit = some 0))) ∧
    ∀ other : Params, Query.predicateOf other.query = Query.predicateOf params.query → ∀ page page',
      (service.find params).on table = (.ok (.page page), table) →
      (service.find other).on table = (.ok (.page page'), table) → page.total = page'.total := by
  refine ⟨?_, ⟨?_, ?_⟩, ?_, ?_⟩
  · rcases find_cases hs params table with ⟨e, he⟩ | ⟨q, clause, hq, hc⟩
    · rw [he]
    · rw [(find_on_of_query hs hq hc table).1]
  · rintro ⟨selection, hselection⟩
    rcases find_cases hs params table with ⟨e, he⟩ | ⟨q, clause, hq, hc⟩
    · rw [he] at hselection
      cases hselection
    · exact ⟨q, clause, hq, Query.predicate_ofFields hq ▸ hc⟩
  · rintro ⟨q, clause, hq, hc⟩
    rw [← Query.predicate_ofFields hq] at hc
    exact ⟨_, (find_on_of_query hs hq hc table).1⟩
  · intro q clause hq hc
    refine ⟨Predicate.holds_iff_satisfied hc, ?_⟩
    rw [← Query.predicate_ofFields hq] at hc
    obtain ⟨hfind, plans, hpaginated, hwatched⟩ := find_on_of_query hs hq hc table
    refine ⟨_, plans, hfind, hwatched, ?_, ?_⟩
    · intro henabled
      refine ⟨_, if_pos henabled, Page.of_enabled henabled _ _ _, ?_⟩
      obtain ⟨size, _, hresolve⟩ := Policy.resolve_of_enabled henabled q.controls.limit
      have hlimit : (q.controls.under (service.policyOf params)).limit = some _ := hresolve
      rw [hpaginated, hlimit, Option.some.injEq]
      rfl
    · intro henabled
      have hunder : q.controls.under (service.policyOf params) = q.controls := by
        rw [Controls.under, Policy.resolve_of_not_enabled henabled]
      refine ⟨_, if_neg (Bool.eq_false_iff.mp henabled), ?_, ?_, ?_⟩
      · rw [hunder]
      · rw [List.length_map, hunder, Controls.length_page]
      · rw [hpaginated, hunder]
  · intro other hother page page' hpage hpage'
    obtain ⟨clause, hc, htotal⟩ := total_of_find hs hpage
    obtain ⟨clause', hc', htotal'⟩ := total_of_find hs hpage'
    -- Both totals count the rows of one clause: it is made from the predicate alone.
    rw [hother, hc] at hc'
    cases hc'
    rw [htotal, htotal']

end

/-- A service that makes pages of two rows, and of three at most. -/
def paging : Service Table := { standard with policy := ⟨some 2, some 3⟩ }

/-- The limit asked for is cut down to three, and one of two rows is left on the page; a page of no rows is not fetched. -/
theorem find_on_secondRow :
    (∃ page, (paging.find ⟨[("id", .object [("$gte", .ofInt 1)]), ("$limit", .ofInt 5), ("$skip", .ofInt 1)], none⟩).on
        people = (.ok (.page page), people) ∧
      page.total = 2 ∧ page.limit = 3 ∧ page.skip = 1 ∧ page.data.length = 1) ∧
    ∃ plan, (paging.watched.find ⟨[("$limit", .ofInt 0)], none⟩).on ⟨[], people⟩
      = (.ok (.page ⟨2, 0, 0, []⟩), ⟨[.count plan], people⟩) := by
  have hstorage : paging.storage = Table.storage := rfl
  constructor
  · obtain ⟨_, _, hread, _⟩ := find_on hstorage
      ⟨[("id", .object [("$gte", .ofInt 1)]), ("$limit", .ofInt 5), ("$skip", .ofInt 1)], none⟩ people
    obtain ⟨_, selection, plans, hfind, _, hpage, _⟩ := hread _ _ rfl rfl
    obtain ⟨page, rfl, hof, _⟩ := hpage rfl
    obtain ⟨size, hsize, hlimit⟩ := hof.limit_eq
    cases hsize
    have htotal : page.total = 2 := hof.total_eq.trans (by decide +kernel)
    have hlength := hof.length_data
    rw [hlimit, hof.skip_eq, htotal] at hlength
    exact ⟨page, hfind, htotal, hlimit, hof.skip_eq, hlength⟩
  · obtain ⟨_, _, hread, _⟩ := find_on hstorage ⟨[("$limit", .ofInt 0)], none⟩ people
    obtain ⟨_, selection, plans, _, hwatched, hpage, _⟩ := hread _ _ rfl rfl
    obtain ⟨⟨total, limit, skip, data⟩, rfl, hof, hfetched⟩ := hpage rfl
    obtain ⟨size, hsize, hlimit⟩ := hof.limit_eq
    cases hsize
    obtain rfl : limit = 0 := hlimit
    obtain rfl : total = 2 := hof.total_eq.trans (by decide +kernel)
    obtain rfl : skip = 0 := hof.skip_eq
    obtain rfl : data = [] := List.length_eq_zero_iff.mp (hof.length_data.trans (Nat.zero_min _))
    refine ⟨plans.unbounded, ?_⟩
    rw [hwatched, Plans.requests, hfetched.mpr rfl]
    rfl

end Service

end RowStore
