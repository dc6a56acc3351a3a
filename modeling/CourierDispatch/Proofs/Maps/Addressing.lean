import CourierDispatch.Maps.Client
import CourierDispatch.Proofs.Maps.Segment

/-!
# Where a place is asked for

A place is asked for under `v1/places`, in a segment of its own. Only the ids `.` and `..` are refused
there, but an id is pushed without its tabs and line ends: so it is what is left of an id that is named
(`place_addressed_iff`), and where only dots are left, no place is asked for at all
(`place_addressed_elsewhere`).
-/

namespace CourierDispatch

namespace Url

variable {special : Bool} {parts : List Segment} {s t : List Char}

/-- The path that something is pushed behind. -/
def stem (u : Url) : List Char :=
  match u.path with
  | .segments parts => pathText (.segments (openPath (closePath parts)))
  | .bare text => text

theorem pathText_append (first second : List Segment) : pathText (.segments (first ++ second)) =
    pathText (.segments first) ++ pathText (.segments second) := List.flatMap_append

theorem pathText_openPath (parts : List Segment) : ∃ n ≤ 1, pathText (.segments parts) =
    pathText (.segments (openPath parts)) ++ List.replicate n '/' := by
  unfold openPath
  split
  · next root => exact ⟨1, Nat.le_refl 1, by rw [root]; rfl⟩
  · exact ⟨0, Nat.zero_le 1, (List.append_nil _).symm⟩

theorem pathText_closePath (parts : List Segment) : ∃ n ≤ 1, pathText (.segments parts) =
    pathText (.segments (closePath parts)) ++ List.replicate n '/' := by
  unfold closePath
  split
  · next closed =>
    obtain ⟨above, rfl⟩ := List.getLast?_eq_some_iff.1 closed.2
    rw [List.dropLast_concat]
    exact ⟨1, Nat.le_refl 1, pathText_append above [[]]⟩
  · exact ⟨0, Nat.zero_le 1, (List.append_nil _).symm⟩

/-- It is the path without the slashes at its end, of which there are two at most. -/
theorem pathText_eq_stem (u : Url) : ∃ n ≤ 2, pathText u.path = u.stem ++ List.replicate n '/' := by
  unfold stem
  split
  · next parts path =>
    obtain ⟨m, few, closed⟩ := pathText_closePath parts
    obtain ⟨n, few', opened⟩ := pathText_openPath (closePath parts)
    refine ⟨n + m, by omega, ?_⟩
    rw [path, closed, opened, List.append_assoc, List.replicate_append_replicate]
  · next text path => exact ⟨0, Nat.zero_le 2, by rw [path]; exact (List.append_nil _).symm⟩

/-! ## Pushing -/

theorem isBlank_of_dropped {x : Char} (gone : dropped x = true) : Text.isBlank x = true := by
  simp only [dropped, Bool.or_eq_true, decide_eq_true_eq] at gone
  rcases gone with (rfl | rfl) | rfl <;> decide

theorem openPath_concat (named : s ≠ []) : openPath (parts ++ [s]) = parts ++ [s] := by
  refine if_neg fun root => named ?_
  simpa using congrArg List.getLast? root

/-- Where the segments for an id lead, of which this is left: the plain dots are followed. -/
def landing (s : List Char) : List Segment :=
  if s = ['.', '.'] then ["v1".toList, []]
  else if s = ['.'] then ["v1".toList, "places".toList, []]
  else ["v1".toList, "places".toList, code (codedInSegment true) s]

theorem push_place (dot : s ≠ ['.']) (dots : s ≠ ['.', '.']) :
    ["v1".toList, "places".toList, s].foldl (pushPart true) parts = openPath parts ++ landing (kept s) := by
  have version : pushPart true parts "v1".toList = openPath parts ++ ["v1".toList] := rfl
  have places : pushPart true (openPath parts ++ ["v1".toList]) "places".toList =
      openPath parts ++ ["v1".toList] ++ ["places".toList] := by
    change walk (openPath (openPath parts ++ ["v1".toList])) _ = _
    rw [openPath_concat (by decide)]
    rfl
  have above_ : above (openPath parts ++ ["v1".toList] ++ ["places".toList]) =
      openPath parts ++ ["v1".toList] := by
    unfold above
    rw [List.getLast?_concat, List.dropLast_concat]
    rfl
  rw [List.foldl_cons, List.foldl_cons, List.foldl_cons, List.foldl_nil, version, places, pushPart,
    if_neg (by simp [dot, dots]), openPath_concat (by decide), walk, above_]
  unfold landing
  by_cases climb : kept s = ['.', '.']
  · rw [if_pos (climbs_segmentOf.2 climb), if_pos climb]
    simp
  · rw [if_neg fun h => climb (climbs_segmentOf.1 h), if_neg climb]
    by_cases stay : kept s = ['.']
    · rw [if_pos (stays_segmentOf.2 stay), if_pos stay]
      simp
    · rw [if_neg fun h => stay (stays_segmentOf.1 h), if_neg stay]
      simp [segmentOf, kept]

end Url

namespace Maps

open Url

/-- A request goes to the place of this id, under `/v1/places/` behind a stem and nowhere else. -/
def Outgoing.Names (r : Outgoing) (stem id : List Char) : Prop :=
  ∃ segment : Segment, segment ≠ [] ∧ (∀ x ∈ segment, x ≠ '/' ∧ x ≠ '?' ∧ x ≠ '#') ∧
    r.url.target = stem ++ "/v1/places/".toList ++ segment ∧
    Text.percentBytes (Text.bytes segment) = Text.bytes id

namespace Client

variable {c : Client} {id id' : String} {r r' : Outgoing}

/-! ## Requests -/

theorem request_ok {method : String} {url : Url} {headers : List (String × String)}
    {body : Option Json.Value} (asked : c.request method url headers body = .ok r) :
    (url.scheme = "http" ∨ url.scheme = "https") ∧ r.method = method ∧ r.body = body ∧
      r.url = url.withoutUser := by
  unfold request at asked
  split at asked
  · cases asked
  · dsimp only at asked
    split at asked
    · cases asked
    split at asked
    · cases asked
    · next scheme =>
      split at asked
      · cases asked
      · cases asked
        exact ⟨Classical.byContradiction fun other => scheme (not_or.1 other), rfl, rfl, rfl⟩

theorem placeUrl_ok {u : Url} (asked : c.placeUrl id = .ok u) :
    id ≠ "." ∧ id ≠ ".." ∧ ∃ base parts, Url.read c.placesUrl = .ok base ∧ base.path = .segments parts ∧
      u = { base with path := .segments (["v1".toList, "places".toList, id.toList].foldl
        (pushPart (isSpecial base.scheme)) (closePath parts)) } := by
  unfold placeUrl at asked
  split at asked
  · cases asked
  · next plain =>
    obtain ⟨dot, dots⟩ := not_or.1 plain
    split at asked
    · cases asked
    · next base found =>
      split at asked
      · cases asked
      · next pushed pushes =>
        cases asked
        unfold push at pushes
        split at pushes
        · next parts path =>
          cases pushes
          exact ⟨dot, dots, base, parts, found, path, rfl⟩
        · cases pushes

/-- A request for a place, and where it goes. -/
structure Asks (c : Client) (id : String) (r : Outgoing) (base : Url) : Prop where
  found : Url.read c.placesUrl = .ok base
  scheme : base.scheme = "http" ∨ base.scheme = "https"
  method : r.method = "GET"
  body : r.body = none
  url : r.url = { base.withoutUser with path := r.url.path }
  target : r.url.target = base.stem ++ pathText (.segments (landing (kept id.toList))) ++
    marked '?' base.query
  kept : kept id.toList ≠ []
  dot : id.toList ≠ ['.']
  dots : id.toList ≠ ['.', '.']

theorem asks_of_ok (asked : c.placeRequest id = .ok r) : ∃ base, c.Asks id r base := by
  unfold placeRequest at asked
  split at asked
  · cases asked
  · next named =>
    cases addressed : c.placeUrl id with
    | error err => rw [addressed] at asked; cases asked
    | ok u =>
      rw [addressed] at asked
      obtain ⟨scheme, method, body, url⟩ := request_ok asked
      obtain ⟨dot, dots, base, parts, found, path, rfl⟩ := placeUrl_ok addressed
      have dot : id.toList ≠ ['.'] := fun same => dot (String.toList_inj.1 same)
      have dots : id.toList ≠ ['.', '.'] := fun same => dots (String.toList_inj.1 same)
      have special : isSpecial base.scheme = true := by
        rcases scheme with same | same <;> rw [show base.scheme = _ from same] <;> rfl
      rw [special, push_place dot dots] at url
      refine ⟨base, found, scheme, method, body, by rw [url]; rfl, ?_, fun nothing => named ?_, dot, dots⟩
      · rw [url]
        change pathText (.segments (openPath (closePath parts) ++ landing (kept id.toList))) ++ _ = _
        rw [pathText_append]
        simp only [stem, path]
        rfl
      · refine List.all_eq_true.2 fun x member => ?_
        exact isBlank_of_dropped (by simpa using List.filter_eq_nil_iff.1 nothing x member)

theorem Asks.names_iff {base : Url} (h : c.Asks id r base) (plain : base.query = none) {t : List Char} :
    r.Names base.stem t ↔ Url.kept id.toList = t ∧ t ≠ ['.'] ∧ t ≠ ['.', '.'] := by
  have target : r.url.target = base.stem ++ pathText (.segments (landing (Url.kept id.toList))) := by
    rw [h.target, plain, marked, List.append_nil]
  constructor
  · rintro ⟨segment, something, -, same, decoded⟩
    rw [target, List.append_assoc, List.append_cancel_left_eq] at same
    unfold landing at same
    split at same
    · cases same
    · next dots =>
      split at same
      · have same : "/v1/places/".toList ++ [] = "/v1/places/".toList ++ segment := same
        exact absurd (List.append_cancel_left same).symm something
      · next dot =>
        have written : code (codedInSegment true) (Url.kept id.toList) = segment := by
          simpa [pathText] using same
        have all : Url.kept id.toList = t := by
          rw [← written] at decoded
          exact Text.bytes_inj.1 ((percentBytes_segmentOf true _).symm.trans decoded)
        exact ⟨all, all ▸ dot, all ▸ dots⟩
  · rintro ⟨rfl, dot, dots⟩
    refine ⟨segmentOf true id.toList, fun nothing => h.kept ?_, fun _ => unmarked_segmentOf, ?_,
      percentBytes_segmentOf true _⟩
    · rw [← Text.bytes_inj, ← percentBytes_segmentOf true, nothing]
      rfl
    · rw [target, landing, if_neg dots, if_neg dot, List.append_assoc]
      simp [pathText, segmentOf, Url.kept]


/-- Two requests go to the same target if and only if the same is left of both ids. -/
theorem Asks.target_inj {base : Url} (h : c.Asks id r base) (h' : c.Asks id' r' base)
    (plain : base.query = none) :
    r.url.target = r'.url.target ↔ Url.kept id.toList = Url.kept id'.toList := by
  refine ⟨fun same => ?_, fun same => by rw [h.target, h'.target, same]⟩
  -- What is named depends on the target alone, so only dots could be taken for each other.
  have names {t : List Char} (other : t ≠ ['.'] ∧ t ≠ ['.', '.']) :
      Url.kept id.toList = t ↔ Url.kept id'.toList = t := by
    have named : r.Names base.stem t ↔ r'.Names base.stem t := by simp only [Outgoing.Names, same]
    rwa [h.names_iff plain, h'.names_iff plain, and_iff_left other, and_iff_left other] at named
  by_cases first : Url.kept id.toList ≠ ['.'] ∧ Url.kept id.toList ≠ ['.', '.']
  · exact ((names first).1 rfl).symm
  by_cases second : Url.kept id'.toList ≠ ['.'] ∧ Url.kept id'.toList ≠ ['.', '.']
  · exact (names second).2 rfl
  rw [h.target, h'.target, plain, List.append_assoc, List.append_assoc, List.append_cancel_left_eq] at same
  simp only [Classical.not_and_iff_not_or_not, Classical.not_not] at first second
  rcases first with dot | dots <;> rcases second with dot' | dots'
  · rw [dot, dot']
  · rw [dot, dots'] at same
    cases same
  · rw [dots, dot'] at same
    cases same
  · rw [dots, dots']

/-- A place that is asked for is asked for at the service that was given, behind the path of its address.
The request names the id in a segment of its own if and only if there is no tab and no line end in the id.
In any case it names what is left of the id without these, and no two ids of which different texts are left
go to the same target; but where a dot is left, the request goes to `/v1/places/`, and where two dots are
left, it climbs to `/v1/`. -/
theorem place_addressed_iff (asked : c.placeRequest id = .ok r) :
    ∃ base, Url.read c.placesUrl = .ok base ∧ (base.scheme = "http" ∨ base.scheme = "https") ∧
      r.method = "GET" ∧ r.body = none ∧ r.url = { base.withoutUser with path := r.url.path } ∧
      (∃ n ≤ 2, pathText base.path = base.stem ++ List.replicate n '/') ∧
      (base.query = none →
        (r.Names base.stem id.toList ↔ ∀ x ∈ id.toList, dropped x = false) ∧
        (r.Names base.stem (kept id.toList) ↔ kept id.toList ≠ ['.'] ∧ kept id.toList ≠ ['.', '.']) ∧
        (kept id.toList = ['.'] → r.url.target = base.stem ++ "/v1/places/".toList) ∧
        (kept id.toList = ['.', '.'] → r.url.target = base.stem ++ "/v1/".toList) ∧
        ∀ id' r', c.placeRequest id' = .ok r' →
          (r.url.target = r'.url.target ↔ kept id.toList = kept id'.toList)) := by
  obtain ⟨base, asks⟩ := asks_of_ok asked
  refine ⟨base, asks.found, asks.scheme, asks.method, asks.body, asks.url, pathText_eq_stem base,
    fun plain => ⟨?_, ?_, fun dot => ?_, fun dots => ?_, fun id' r' asked' => ?_⟩⟩
  · rw [asks.names_iff plain, and_iff_left ⟨asks.dot, asks.dots⟩, kept, List.filter_eq_self]
    simp
  · rw [asks.names_iff plain, and_iff_right rfl]
  · rw [asks.target, plain, dot, marked, List.append_nil]
    rfl
  · rw [asks.target, plain, dots, marked, List.append_nil]
    rfl
  · obtain ⟨base', asks'⟩ := asks_of_ok asked'
    have same := asks.found.symm.trans asks'.found
    cases same
    exact asks.target_inj asks' plain

/-- A service at this host. -/
def loopback : Client := ⟨"key", "http://[::1]", "http://[::1]"⟩

theorem place_addressed_iff_loopback : ∃ r, loopback.placeRequest "odd/id" = .ok r ∧
    r.url.target = "/v1/places/odd%2Fid".toList ∧ ∃ stem, r.Names stem "odd/id".toList := by
  have target : (loopback.placeRequest "odd/id").toOption.map (·.url.target) =
      some "/v1/places/odd%2Fid".toList := by
    decide +kernel
  have unasked : (Url.read loopback.placesUrl).toOption.map Url.query = some none := by decide +kernel
  cases asked : loopback.placeRequest "odd/id" with
  | error err => rw [asked] at target; cases target
  | ok r =>
    rw [asked] at target
    obtain ⟨base, found, -, -, -, -, -, addressed⟩ := place_addressed_iff asked
    rw [found] at unasked
    obtain ⟨named, -⟩ := addressed (Option.some.inj unasked)
    exact ⟨r, rfl, Option.some.inj target, base.stem, named.2 (by simp [dropped])⟩

/-- Not each id that is accepted is named: two dots with a tab between them climb to `/v1/`. -/
theorem place_addressed_elsewhere : ¬ ∀ (c : Client) (id : String) (r : Outgoing) (base : Url),
    c.placeRequest id = .ok r → Url.read c.placesUrl = .ok base → base.query = none →
    base.fragment = none → r.Names base.stem id.toList := by
  intro named
  have target : (loopback.placeRequest ".\t.").toOption.map (·.url.target) = some "/v1/".toList := by
    decide +kernel
  have plain : (Url.read loopback.placesUrl).toOption.map (fun base => (base.query, base.fragment)) =
      some (none, none) := by decide +kernel
  cases asked : loopback.placeRequest ".\t." with
  | error err => rw [asked] at target; cases target
  | ok r =>
    cases found : Url.read loopback.placesUrl with
    | error err => rw [found] at plain; cases plain
    | ok base =>
      rw [asked] at target
      rw [found] at plain
      obtain ⟨query, fragment⟩ := Prod.mk.inj (Option.some.inj plain)
      obtain ⟨segment, -, -, same, -⟩ := named loopback ".\t." r base asked found query fragment
      have length := congrArg List.length (same.symm.trans (Option.some.inj target))
      simp only [List.length_append] at length
      have longer : "/v1/places/".toList.length = 11 ∧ "/v1/".toList.length = 4 := by decide
      omega

end Client

end Maps

end CourierDispatch
