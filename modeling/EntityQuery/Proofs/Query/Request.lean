import EntityQuery.Proofs.Criteria.RoundTrip
import EntityQuery.Proofs.Json.Record
import EntityQuery.Query.Request

/-!
# Requests read back

A request is read back from its JSON object, whatever it holds, if its criteria
are ones that can be read.  Those of a request that was read always can, so
requests settle after one pass.

## Main Definitions

* `BoundedCriteria.IsRead`: the criteria that a request holds once it is read.

## Main Statements

* `PageRequest.ofJson_toJson`: reading a request from its own JSON object.
* `Query.ofJson_toJson_request`: what of a query survives being sent.
* `PageRequest.isRead_filters`: an invariant of reading, for all forms of a
  request.
* `PageRequest.ofJson_settles`: reading, restoring and sending again.

## Design Notes

The object is sorted by name and the record is read in that order, so the parts
are stored in another order than the request lists them in.
-/

namespace EntityQuery

open Json (FromValue Source)

/-! ## Parts of a request -/

theorem Settings.count_toNat (n : UInt32) :
    (count : FromValue UInt32) (.number (.integer n.toNat)) = .ok n := by
  have part := FromValue.natural_of_lt (n.toNat_lt : n.toNat < UInt32.size) "u32"
  rw [count]
  exact FromValue.store_eq_ok_iff.mpr ⟨_, part, UInt32.ofNat_toNat⟩

namespace SortKey

theorem normalize_toJson (k : SortKey) :
    k.toJson.normalize =
      .object [("direction", .string k.direction.name), ("field", .string k.field)] := by
  have sorted : Members.Sorted
      [("direction", Json.string k.direction.name), ("field", .string k.field)] :=
    Members.sorted_iff_names.mpr (by decide : ["direction", "field"].Pairwise (· < ·))
  rw [toJson, Json.normalize_object]
  exact congrArg Json.object (Members.ofList_eq_of_perm sorted (.swap _ _ _))

theorem description_toJson (k : SortKey) :
    (description : FromValue SortKey) k.toJson.normalize = .ok k := by
  obtain ⟨field, direction⟩ := k
  rw [normalize_toJson, description]
  refine FromValue.record_object
    [fun k : SortKey => { k with direction }, fun k : SortKey => { k with field }] ?_ ?_ ?_ _ _
  · have named : (Source.variant [("asc", .asc), ("desc", .desc)] : FromValue Direction)
        (.string direction.name) = .ok direction := by
      cases direction <;> rfl
    refine .cons (FromValue.storedBy_of_read rfl named fun _ => rfl) ?_
    exact .cons (FromValue.storedBy_of_read rfl (FromValue.text_string field) fun _ => rfl) .nil
  · exact (by decide : ["direction", "field"].Nodup)
  · simp

end SortKey

theorem SortOrder.description_toJson (o : SortOrder) :
    (description : FromValue SortOrder) o.toJson.normalize = .ok o := by
  have keys : (Source.list SortKey.description : FromValue (List SortKey)) o.toJson.normalize =
      .ok o.keys := by
    rw [toJson, Json.normalize, Json.normalizeItems_eq_map, List.map_map]
    exact FromValue.list_map fun k _ => k.description_toJson
  exact FromValue.store_eq_ok_iff.mpr ⟨_, keys, rfl⟩

namespace BoundedCriteria

/-- Criteria as a request holds them once it is read: canonical and in order at every level, and
within the default bound. -/
structure IsRead (b : BoundedCriteria) : Prop where
  bound : b.maxDepth = defaultMaxDepth
  shallow : b.depth ≤ defaultMaxDepth
  orderly : Criteria.EveryLevel Criteria.Orderly b.criteria

theorem description_eq_ok_iff {v : Json} {b : BoundedCriteria} :
    (description : FromValue BoundedCriteria) v = .ok b ↔
      ofJson v.normalize defaultMaxDepth = .ok b := by
  rw [description]
  constructor
  · intro read
    obtain ⟨_, ⟨rfl⟩, read⟩ := FromValue.bind_eq_ok_iff.mp read
    cases found : ofJson v.normalize defaultMaxDepth with
    | ok criteria =>
      simp only [found] at read
      cases read
      rfl
    | error e =>
      simp only [found] at read
      cases read
  · intro found
    refine FromValue.bind_eq_ok_iff.mpr ⟨v.normalize, rfl, ?_⟩
    simp only [found]
    rfl

theorem isRead_of_description {v : Json} {b : BoundedCriteria}
    (read : (description : FromValue BoundedCriteria) v = .ok b) : b.IsRead := by
  obtain ⟨_, -, read, bound, shallow⟩ := ofJson_eq_ok_iff.mp (description_eq_ok_iff.mp read)
  exact ⟨bound, shallow, Criteria.everyLevel_of_ofMembers read⟩

theorem description_toJson {criteria : Criteria}
    (orderly : Criteria.EveryLevel Criteria.Orderly criteria)
    (shallow : Criteria.depth criteria ≤ defaultMaxDepth) :
    (description : FromValue BoundedCriteria) criteria.toJson =
      .ok ⟨criteria, defaultMaxDepth⟩ := by
  have read := Criteria.ofMembers_members criteria (orderly.imp fun _ => Criteria.Orderly.keyed)
    (orderly.imp fun _ => Criteria.Orderly.canonical)
  rw [description_eq_ok_iff, (Criteria.isNormal_toJson criteria).normalize_eq]
  exact ofJson_eq_ok_iff.mpr ⟨_, Criteria.toJson_eq criteria, read, rfl, shallow⟩

end BoundedCriteria

/-! ## Whole requests -/

namespace PageRequest

/-- The members of a request, sorted by name. -/
theorem toJson_eq (r : PageRequest) :
    r.toJson = .object
      [ ("distinct", .bool r.distinct),
        ("entity", .string r.entity),
        ("export", .bool r.exports),
        ("fields", .array (r.fields.map .string)),
        ("filters", r.filters.criteria.toJson),
        ("page", .number (.integer r.page.toNat)),
        ("size", .number (.integer r.size.toNat)),
        ("sort", .string r.sort.raw),
        ("sorts", r.sorts.toJson.normalize) ] := by
  have strings : (Json.array (r.fields.map .string)).normalize = .array (r.fields.map .string) := by
    rw [Json.normalize, Json.normalizeItems_eq_map, List.map_map]
    rfl
  rw [toJson, wire, Json.normalize_object]
  simp only [List.map_cons, List.map_nil, Criteria.normalize_wire, strings]
  rfl

/-- A request is read from its own JSON object, but for the bound on nesting. -/
theorem ofJson_toJson {r : PageRequest}
    (orderly : Criteria.EveryLevel Criteria.Orderly r.filters.criteria)
    (shallow : r.filters.depth ≤ BoundedCriteria.defaultMaxDepth) :
    ofJson r.toJson =
      .ok { r with filters := ⟨r.filters.criteria, BoundedCriteria.defaultMaxDepth⟩ } := by
  have fields : (Source.list Source.text : FromValue (List String))
      (.array (r.fields.map .string)) = .ok r.fields :=
    FromValue.list_map fun name _ => FromValue.text_string name
  have filters := BoundedCriteria.description_toJson orderly shallow
  have page := Settings.count_toNat r.page
  have size := Settings.count_toNat r.size
  have sorts := r.sorts.description_toJson
  rw [toJson_eq, ofJson, Json.decode, description]
  refine FromValue.record_object
    [ fun p : PageRequest => { p with distinct := r.distinct },
      fun p : PageRequest => { p with entity := r.entity },
      fun p : PageRequest => { p with exports := r.exports },
      fun p : PageRequest => { p with fields := r.fields },
      fun p : PageRequest =>
        { p with filters := ⟨r.filters.criteria, BoundedCriteria.defaultMaxDepth⟩ },
      fun p : PageRequest => { p with page := r.page },
      fun p : PageRequest => { p with size := r.size },
      fun p : PageRequest => { p with sort := r.sort },
      fun p : PageRequest => { p with sorts := r.sorts } ] ?_ ?_ ?_ _ _
  · refine .cons (FromValue.storedBy_of_read rfl (FromValue.flag_bool r.distinct) fun _ => rfl) ?_
    refine .cons (FromValue.storedBy_of_read rfl (FromValue.text_string r.entity) fun _ => rfl) ?_
    refine .cons (FromValue.storedBy_of_read rfl (FromValue.flag_bool r.exports) fun _ => rfl) ?_
    refine .cons (FromValue.storedBy_of_read rfl fields fun _ => rfl) ?_
    refine .cons (FromValue.storedBy_of_read rfl filters fun _ => rfl) ?_
    refine .cons (FromValue.storedBy_of_read rfl page fun _ => rfl) ?_
    refine .cons (FromValue.storedBy_of_read rfl size fun _ => rfl) ?_
    refine .cons (FromValue.storedBy_of_read rfl (FromValue.text_string r.sort.raw) fun _ => rfl) ?_
    exact .cons (FromValue.storedBy_of_read rfl sorts fun _ => rfl) .nil
  · exact (by decide : ["distinct", "entity", "export", "fields", "filters", "page", "size", "sort",
      "sorts"].Nodup)
  · simp

theorem size_toQuery (r : PageRequest) : r.toQuery.size = if r.size = 0 then 1 else r.size := by
  change (if r.size ≤ 1 then 1 else r.size) = _
  grind

end PageRequest

/-- A query survives being sent if its criteria are canonical at every level and not nested deeper
than requests may be.  Only the handle of the last export is lost, and the bound on nesting becomes
that of requests.  Criteria that were built or read are always in order. -/
theorem Query.ofJson_toJson_request {q : Query} (positive : 1 ≤ q.size)
    (shallow : q.filters.depth ≤ 8)
    (sorted : Criteria.EveryLevel Criteria.Sorted q.filters.criteria)
    (canonical : Criteria.EveryLevel Criteria.Canonical q.filters.criteria) :
    ∃ r, PageRequest.ofJson q.request.toJson = .ok r ∧
      r.toQuery = { q with filters := ⟨q.filters.criteria, 8⟩, lastExport := none } := by
  have orderly : Criteria.EveryLevel Criteria.Orderly q.filters.criteria :=
    fun level has => ⟨sorted level has, canonical level has⟩
  refine ⟨_, PageRequest.ofJson_toJson (r := q.request) orderly shallow, ?_⟩
  have kept : q.request.toQuery.size = q.size := by
    rw [PageRequest.size_toQuery]
    refine if_neg fun zero => ?_
    rw [show q.size = 0 from zero] at positive
    exact absurd positive (by decide)
  change { q with
    filters := ⟨q.filters.criteria, 8⟩, lastExport := none, size := q.request.toQuery.size } = _
  rw [kept]

/-- A query with a subquery, a sort, a bound of its own, and the handle of an export. -/
theorem Query.ofJson_toJson_request_of_one_subquery :
    let query : Subquery :=
      { entity := "orders", field := "customer", filters := [⟨"name", .like (.text "John")⟩] }
    let q : Query :=
      { filters := ⟨[⟨"id", .inSubquery query⟩], 3⟩
        sorts := ⟨[⟨"salary", .desc⟩]⟩
        page := 2
        lastExport := some ⟨"exports/1.csv"⟩ }
    1 ≤ q.size ∧ q.filters.depth ≤ 8 ∧ Criteria.EveryLevel Criteria.Orderly q.filters.criteria ∧
      ∃ r, PageRequest.ofJson q.request.toJson = .ok r ∧
        r.toQuery = { q with filters := ⟨q.filters.criteria, 8⟩, lastExport := none } := by
  intro query q
  have alone : ∀ c : Criterion, c.name.IsCanonical → Criteria.Orderly [c] := by
    intro c canonical
    exact ⟨List.pairwise_singleton _ _, List.forall_mem_singleton.mpr canonical⟩
  have orderly : Criteria.EveryLevel Criteria.Orderly q.filters.criteria := by
    refine Criteria.everyLevel_iff.mpr ⟨alone _ (by decide), List.forall_mem_singleton.mpr ?_⟩
    refine Predicate.everyLevel_inSubquery.mpr (Criteria.everyLevel_iff.mpr ?_)
    refine ⟨alone _ (by decide), List.forall_mem_singleton.mpr ?_⟩
    exact Predicate.everyLevel_of_kind_ne (by decide)
  have positive : 1 ≤ q.size := by decide
  have shallow : q.filters.depth ≤ 8 := by decide
  exact ⟨positive, shallow, orderly,
    ofJson_toJson_request positive shallow (orderly.imp fun _ => Criteria.Orderly.sorted)
      (orderly.imp fun _ => Criteria.Orderly.canonical)⟩

/-! ## Requests that were read -/

namespace PageRequest

/-- Whatever the form of a request, its criteria are as those of requests are once it is read. -/
theorem isRead_filters {v : Json} {p : PageRequest} (read : ofJson v = .ok p) :
    p.filters.IsRead := by
  rw [ofJson, Json.decode, description] at read
  refine FromValue.record_keeps (P := fun p => p.filters.IsRead) ?_ ?_ read
  · simp only [List.forall_mem_cons]
    refine ⟨?_, ?_, ?filters, ?_, ?_, ?_, ?_, ?_, ?_, nofun⟩
    case filters =>
      exact FromValue.keeps_store fun _ _ _ isPart _ =>
        BoundedCriteria.isRead_of_description isPart
    -- The other fields leave the criteria alone.
    all_goals exact FromValue.keeps_store fun _ _ _ _ kept => kept
  · exact ⟨rfl, Nat.zero_le _, Criteria.everyLevel_nil Criteria.orderly_nil⟩

theorem ofJson_toJson_of_isRead {p : PageRequest} (isRead : p.filters.IsRead) :
    ofJson p.toJson = .ok p := by
  rw [ofJson_toJson isRead.orderly isRead.shallow, ← isRead.bound]

/-- Restoring a query and sending it again changes nothing but a page size of zero. -/
theorem request_toQuery (p : PageRequest) :
    p.toQuery.request = { p with size := if p.size = 0 then 1 else p.size } := by
  rw [← size_toQuery]
  rfl

/-- Requests settle after one pass.  One that was read, from whatever form, is read back as it is;
the query restored from it asks for the same, with a positive page size; and from then on nothing
changes. -/
theorem ofJson_settles {v : Json} {p : PageRequest} (read : ofJson v = .ok p) :
    ofJson p.toJson = .ok p ∧
      p.toQuery.request = { p with size := if p.size = 0 then 1 else p.size } ∧
      ofJson p.toQuery.request.toJson = .ok p.toQuery.request ∧
      p.toQuery.request.toQuery.request = p.toQuery.request := by
  have isRead := isRead_filters read
  refine ⟨ofJson_toJson_of_isRead isRead, p.request_toQuery, ofJson_toJson_of_isRead isRead, ?_⟩
  have positive : p.toQuery.request.size ≠ 0 := by
    change p.toQuery.size ≠ 0
    rw [size_toQuery]
    grind
  rw [request_toQuery p.toQuery.request, if_neg positive]

/-- An array with a subquery that has no `filters`, a direction written as an object, a page size
of zero, and no flags. -/
theorem ofJson_settles_of_array :
    let v : Json := .array [.string "Employee", .array [.string "id"],
      .object [("id_inSubquery",
        .object [("entity", .string "orders"), ("field", .string "customer")])],
      .number (.integer 0), .number (.integer 0), .string "",
      .array [.array [.string "name", .object [("asc", .null)]]]]
    let query : Subquery := { entity := "orders", field := "customer", filters := [] }
    let p : PageRequest :=
      { entity := "Employee"
        fields := ["id"]
        filters := ⟨[⟨"id", .inSubquery query⟩], 8⟩
        page := 0
        size := 0
        sorts := ⟨[⟨"name", .asc⟩]⟩ }
    ofJson v = .ok p ∧ ofJson p.toJson = .ok p ∧ p.toQuery.request = { p with size := 1 } ∧
      ofJson { p with size := 1 }.toJson = .ok { p with size := 1 } := by
  intro v query p
  have read : ofJson v = .ok p := rfl
  obtain ⟨again, restored, settled, -⟩ := ofJson_settles read
  exact ⟨read, again, restored, settled⟩

end PageRequest

end EntityQuery
