import EntityQuery.Http.Service
import EntityQuery.Proofs.Url.Parse

/-!
# A handle reaches the endpoint for files

The handle of a file is a text of the service's own, and any character may stand
in it.  It goes into the URL of a request as the value of one more pair.  A
reader of that URL finds the pairs of the endpoint, then this pair with the very
text of the handle, and everything else as the endpoint has it.

## Main Definitions

* `Url.Carries`: a URL is another one with a pair at the end of its query.

## Main Statements

* `Url.Separated.carries_appendPair`: an added pair is carried.
* `Http.Endpoints.fileUrl_carries`: the URL of a file carries its handle.

## Design Notes

That two URLs have the same parts says little about their texts, in which a
handle might start another pair, a query or a fragment.  So the texts are
compared as well, cut at their marks as any reader cuts them.
-/

namespace EntityQuery

namespace Url

/-- A URL is `base` with a pair at the end of its query, both in its parts and in its text. -/
structure Carries (name value : String) (base u : Url) : Prop where
  scheme : u.scheme = base.scheme
  authority : u.authority = base.authority
  path : u.path = base.path
  fragment : u.fragment = base.fragment
  /-- Read as a form, the query has the pairs of `base` and then this one. -/
  pairs : u.queryPairs = base.queryPairs ++ [(name.toList, value.toList)]
  /-- The texts differ in nothing but the query, which adds this pair. -/
  text : ∃ front query form fragment, cutMarks base.text.toList = (front, query, fragment) ∧
    cutMarks u.text.toList = (front, some form, fragment) ∧
    decodePairs form = decodePairs (query.getD []) ++ [(name.toList, value.toList)]
  /-- What a request names on the host is the path of `base`, and a query with this pair. -/
  target : ∃ form, cutTail '?' u.target.toList = (base.path.toList, some form) ∧
    decodePairs form = base.queryPairs ++ [(name.toList, value.toList)]

theorem Separated.carries_appendPair {base : Url} (separated : base.Separated)
    (name value : String) : base.Carries name value (base.appendPair name value) := by
  have added := separated.appendPair name value
  have pairs := queryPairs_appendPair name value base
  have query : decodePairs ((base.query.map String.toList).getD []) = base.queryPairs := by
    unfold queryPairs
    cases base.query <;> rfl
  exact
    { scheme := rfl
      authority := rfl
      path := rfl
      fragment := rfl
      pairs
      text := ⟨_, _, _, _, separated.cutMarks_text, added.cutMarks_text, query ▸ pairs⟩
      target := ⟨_, added.cutTail_target, pairs⟩ }

end Url

namespace Http.Endpoints

/-- Whatever URLs the endpoints are read from, the URL of a file is that of the endpoint for files
with the handle as one more pair. -/
theorem fileUrl_carries {queries files : String} {q f : Url}
    (readQueries : Url.parse queries = .ok q) (readFiles : Url.parse files = .ok f) :
    ∃ e, ofTexts queries files = .ok e ∧
      ∀ handle, f.Carries "filePath" handle.path (e.fileUrl handle) := by
  have read : ofTexts queries files = .ok ⟨q, f⟩ := by
    rw [ofTexts, parseUrl, parseUrl, readQueries, readFiles]
    rfl
  exact ⟨_, read, fun handle => (Url.separated_parse readFiles).carries_appendPair _ _⟩

/-- The endpoint has a query and a fragment of its own, and the handle the marks of both. -/
theorem fileUrl_carries_of_marks :
    ∃ e, ofTexts "http://localhost:8080/dynamic/fetch"
        "http://localhost:8080/dynamic//download/?tenant=a+b&&#top" = .ok e ∧
      (e.fileUrl ⟨"exports/a b&c=1#%+\n.csv"⟩).queryPairs =
        [("tenant".toList, "a b".toList),
          ("filePath".toList, "exports/a b&c=1#%+\n.csv".toList)] := by
  have readQueries : Url.parse "http://localhost:8080/dynamic/fetch" =
      .ok ⟨"http", some ⟨"", "", "localhost", some 8080⟩, "/dynamic/fetch", none, none⟩ := by
    decide +kernel
  have readFiles : Url.parse "http://localhost:8080/dynamic//download/?tenant=a+b&&#top" =
      .ok ⟨"http", some ⟨"", "", "localhost", some 8080⟩, "/dynamic//download/",
        some "tenant=a+b&&", some "top"⟩ := by
    decide +kernel
  obtain ⟨e, read, carries⟩ := fileUrl_carries readQueries readFiles
  refine ⟨e, read, (carries _).pairs.trans ?_⟩
  decide +kernel

end Http.Endpoints

end EntityQuery
