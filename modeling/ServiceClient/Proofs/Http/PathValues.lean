import ServiceClient.Client.Call
import ServiceClient.Client.Widgets
import ServiceClient.Http.Exchange
import ServiceClient.Proofs.Http.Address
import ServiceClient.Proofs.Wire.Request

/-! Values of path parameters in the targets of requests. A value that fills a segment of a path is
the segment in its place, and comes back from it, unless it is one or two dots: dots are not
encoded, and an address has no dot segments. -/

namespace ServiceClient.Http
open ServiceClient.Client ServiceClient.Text ServiceClient.Wire ServiceClient.Wire.Template

/-- A path template in which the placeholder of `name` is a segment of its own. -/
structure SegmentTemplate where
  front : List (List Char)
  name : List Char
  back : List (List Char)
  tail : List Char
  plain : '}' ∉ name
  /-- The name is not one for several segments. -/
  single : name.getLast? ≠ some '+'
  closed : ∀ s ∈ front ++ back, closes false s
  follows : IsTail tail

namespace SegmentTemplate

def segments (t : SegmentTemplate) : List (List Char) :=
  t.front ++ placeholder t.name :: t.back

def text (t : SegmentTemplate) : String :=
  String.ofList (joined t.segments ++ t.tail)

/-- Each of the other segments, filled, is one segment that leads downwards. -/
def OthersStay (t : SegmentTemplate) (value? : String → Option String) : Prop :=
  ∀ s ∈ t.front ++ t.back, (∀ c ∈ expandFrom value? none s, endsSegment c = false) ∧
    ∀ u, Cleaned (expandFrom value? none s) u → ¬IsDots u

/-- The target has the segments of the template, and in the place of the placeholder one that is
read as the value. -/
def Shows (t : SegmentTemplate) (target v : String) : Prop :=
  (targetSegments target).length = t.segments.length ∧
    ∃ s, (targetSegments target)[t.front.length]? = some s ∧ percentDecode? s = some v

end SegmentTemplate

/-- What stands in front of the path of a request. -/
def baseText (endpoint : Option String) (r : Request) : String :=
  match endpoint with
  | some endpoint => withoutSlashes endpoint
  | none => "https://" ++ r.hostname

theorem addressText_eq (endpoint : Option String) (r : Request) :
    addressText endpoint r =
      String.ofList ((baseText endpoint r).toList ++ r.resolvedPath.toList) := by
  apply String.toList_injective
  cases endpoint <;> simp only [addressText, baseText, String.toList_append, String.toList_ofList]

section Requests
variable {endpoint : Option String} {r : Request} {t : SegmentTemplate} {v : String}

theorem expandFrom_tail {value? : String → Option String} {tail : List Char}
    (follows : IsTail tail) : IsTail (expandFrom value? none tail) := by
  cases tail with
  | nil => nofun
  | cons c rest =>
    have mark := follows c rfl
    have other : c ≠ '{' := by rcases mark with rfl | rfl <;> decide
    rw [expandFrom, if_neg other]
    rintro _ ⟨⟩
    exact mark

/-- What a list with a middle element is related to has a middle element as well. -/
theorem exists_middle {α β : Type} {R : α → β → Prop} {x : α} {front back : List α} {ys : List β}
    (pairs : List.Forall₂ R (front ++ x :: back) ys) :
    ∃ front' y back', ys = front' ++ y :: back' ∧ List.Forall₂ R front front' ∧ R x y ∧
      List.Forall₂ R back back' := by
  induction front generalizing ys with
  | nil =>
    obtain ⟨y, back', own, others, rfl⟩ := List.forall₂_cons_left_iff.mp pairs
    exact ⟨[], y, back', rfl, .nil, own, others⟩
  | cons z front ih =>
    obtain ⟨z', ys, first, rest, rfl⟩ := List.forall₂_cons_left_iff.mp pairs
    obtain ⟨front', y, back', rfl, earlier, own, later⟩ := ih rest
    exact ⟨z' :: front', y, back', rfl, .cons first earlier, own, later⟩

theorem resolvedPath_toList (path : r.path = t.text)
    (bound : r.pathParams.get? (String.ofList t.name) = some v) :
    r.resolvedPath.toList =
      joined (t.front.map (expandFrom r.pathParams.get? none) ++
        percentChars unreserved v.toList :: t.back.map (expandFrom r.pathParams.get? none)) ++
        expandFrom r.pathParams.get? none t.tail := by
  have closed : ∀ s ∈ t.segments, closes false s := by
    intro s mem
    rcases List.mem_append.mp mem with mem | mem
    · exact t.closed s (List.mem_append_left _ mem)
    · rcases List.mem_cons.mp mem with rfl | mem
      · exact closes_placeholder t.plain
      · exact t.closed s (List.mem_append_right _ mem)
  rw [Request.resolvedPath, expand, path, SegmentTemplate.text, String.toList_ofList,
    String.toList_ofList, expandFrom_joined closed, SegmentTemplate.segments, List.map_append,
    List.map_cons, expandFrom_placeholder t.plain t.single bound]

/-- The address of a request has the filled segments of its template. Whether there is one does not
depend on them. -/
theorem exists_address (path : r.path = t.text)
    (bound : r.pathParams.get? (String.ofList t.name) = some v)
    (others : t.OthersStay r.pathParams.get?) {origin : Origin}
    (base : (baseText endpoint r).toList = origin.text) :
    ∃ front back query,
      List.Forall₂ Cleaned (t.front.map (expandFrom r.pathParams.get? none)) front ∧
      List.Forall₂ Cleaned (t.back.map (expandFrom r.pathParams.get? none)) back ∧
      (t.tail = [] → query = none) ∧
      Address.ofText? (addressText endpoint r) = origin.authority?.map fun authority =>
        { authority, segments := walk [] (front ++ percentChars unreserved v.toList :: back),
          query } := by
  have whole : ∀ s ∈ t.front.map (expandFrom r.pathParams.get? none) ++
      percentChars unreserved v.toList :: t.back.map (expandFrom r.pathParams.get? none),
      ∀ c ∈ s, endsSegment c = false := by
    intro s mem
    rcases List.mem_append.mp mem with mem | mem
    · obtain ⟨u, here, rfl⟩ := List.mem_map.mp mem
      exact (others u (List.mem_append_left _ here)).1
    · rcases List.mem_cons.mp mem with rfl | mem
      · exact fun c inside => (plain_of_mem inside).2.1
      · obtain ⟨u, here, rfl⟩ := List.mem_map.mp mem
        exact (others u (List.mem_append_right _ here)).1
  have follows : IsTail (expandFrom r.pathParams.get? none t.tail) := expandFrom_tail t.follows
  obtain ⟨segments, query, each, bare, made⟩ := origin.ofText?_joined (by simp) whole follows
  obtain ⟨front, value, back, rfl, earlier, own, later⟩ := exists_middle each
  obtain rfl := own.eq fun c inside => (plain_of_mem inside).1
  refine ⟨front, back, query, earlier, later, fun none => bare (by rw [none]; rfl), ?_⟩
  rw [addressText_eq, base, resolvedPath_toList path bound, ← List.append_assoc, made]

/-- A request is sent if its parts can be, and goes to its address. -/
theorem outgoing_eq_ok {o : Outgoing} (sent : outgoing endpoint r = .ok o) :
    ∃ address, Address.ofText? (addressText endpoint r) = some address ∧
      o.target = targetFor r.method (address.addPairs r.params) := by
  unfold outgoing at sent
  split at sent
  · cases sent
  · split at sent
    · cases sent
    · rename_i address made
      split at sent
      · cases sent
        exact ⟨address, made, rfl⟩
      · cases sent

theorem exists_outgoing_iff : (∃ o, outgoing endpoint r = .ok o) ↔
    isToken r.method ∧ (Address.ofText? (addressText endpoint r)).isSome ∧
      r.headers.all isHeader := by
  unfold outgoing
  cases token : isToken r.method with
  | false => simp
  | true =>
    cases made : Address.ofText? (addressText endpoint r) with
    | none => simp
    | some address =>
      cases headers : r.headers.all isHeader <;> simp

theorem segments_addPairs (a : Address) (pairs : List (String × String)) :
    (a.addPairs pairs).segments = a.segments := by
  unfold Address.addPairs
  split <;> rfl

end Requests

section Segments
variable {front back : List (List Char)} {v : String}

/-- Where the path with the value leads, if the other segments stay where they are. -/
theorem walk_value (plain : ∀ s ∈ front ++ back, ¬IsDots s) (value : v ≠ "." ∧ v ≠ "..") :
    walk [] (front ++ percentChars unreserved v.toList :: back) =
      front.map (percentChars keepInPath) ++ percentChars unreserved v.toList ::
        back.map (percentChars keepInPath) := by
  have all : ∀ s ∈ front ++ percentChars unreserved v.toList :: back, ¬IsDots s := by
    intro s mem
    rcases List.mem_append.mp mem with mem | mem
    · exact plain s (List.mem_append_left _ mem)
    · rcases List.mem_cons.mp mem with rfl | mem
      · rw [isDots_percentChars, not_or]
        exact value
      · exact plain s (List.mem_append_right _ mem)
  have kept : percentChars keepInPath (percentChars unreserved v.toList) =
      percentChars unreserved v.toList :=
    percentChars_eq_self fun c mem => (plain_of_mem mem).2.2
  rw [walk_eq [] all, List.nil_append, List.map_append, List.map_cons, kept]

/-- Dots take themselves out of the path, and leave an empty segment where nothing follows. -/
theorem exists_walk_dots (plain : ∀ s ∈ front ++ back, ¬IsDots s) (dots : v = "." ∨ v = "..") :
    ∃ walked, walked.length ≤ front.length ∧
      walk [] (front ++ percentChars unreserved v.toList :: back) =
        walked ++ (if back.isEmpty then [[]] else []) ++ back.map (percentChars keepInPath) := by
  have first : ∀ s ∈ front, ¬IsDots s := fun s mem => plain s (List.mem_append_left _ mem)
  have later : ∀ s ∈ back, ¬IsDots s := fun s mem => plain s (List.mem_append_right _ mem)
  rw [walk_append [] _ first, List.nil_append]
  rcases dots with rfl | rfl
  · refine ⟨front.map (percentChars keepInPath), by simp, ?_⟩
    have encoded : percentChars unreserved ".".toList = ['.'] := by decide
    rw [encoded, walk_dot _ _ _ rfl, walk_eq _ later]
  · refine ⟨(front.map (percentChars keepInPath)).dropLast, by simp, ?_⟩
    have encoded : percentChars unreserved "..".toList = ['.', '.'] := by decide
    rw [encoded, walk_dots _ _ _ rfl, walk_eq _ later]

/-- Dots that leave the path as long as it was leave an empty segment in their place. -/
theorem getElem?_walk_dots (plain : ∀ s ∈ front ++ back, ¬IsDots s) (dots : v = "." ∨ v = "..")
    (same : (walk [] (front ++ percentChars unreserved v.toList :: back)).length =
      front.length + 1 + back.length) :
    (walk [] (front ++ percentChars unreserved v.toList :: back))[front.length]? = some [] := by
  obtain ⟨walked, short, leads⟩ := exists_walk_dots plain dots
  rw [leads] at same ⊢
  cases back with
  | nil =>
    -- The place of the value is that of the empty segment at the end.
    simp only [List.isEmpty_nil, if_true, List.map_nil, List.append_nil, List.length_append,
      List.length_cons, List.length_nil] at same ⊢
    have all : walked.length = front.length := by omega
    rw [← all, List.getElem?_append_right (Nat.le_refl _), Nat.sub_self]
    rfl
  | cons next back =>
    simp only [List.isEmpty_cons, Bool.false_eq_true, if_false, List.append_nil,
      List.length_append, List.length_map] at same
    omega

theorem getElem?_walk_value (plain : ∀ s ∈ front ++ back, ¬IsDots s) (value : v ≠ "." ∧ v ≠ "..") :
    (walk [] (front ++ percentChars unreserved v.toList :: back))[front.length]? =
      some (percentChars unreserved v.toList) := by
  have kept : (front.map (percentChars keepInPath)).length = front.length := List.length_map _
  rw [walk_value plain value, ← kept, List.getElem?_append_right (Nat.le_refl _), Nat.sub_self]
  rfl

/-- No segment of a path that leads somewhere has a mark in it that ends one. -/
theorem walk_apart (whole : ∀ s ∈ front ++ back, ∀ c ∈ s, endsSegment c = false) :
    ∀ s ∈ walk [] (front ++ percentChars unreserved v.toList :: back),
      ∀ c ∈ s, c ≠ '/' ∧ c ≠ '?' := by
  intro s mem
  rcases mem_walk mem with none | rfl | ⟨u, here, rfl⟩
  · cases none
  · nofun
  · refine keepInPath_plain fun c inside => ?_
    rcases List.mem_append.mp here with here | here
    · exact whole u (List.mem_append_left _ here) c inside
    · rcases List.mem_cons.mp here with rfl | here
      · exact (plain_of_mem inside).2.1
      · exact whole u (List.mem_append_right _ here) c inside

end Segments

theorem percentDecode?_nil : percentDecode? [] = some "" := by decide

/-- The value is shown in its place exactly if it is no dot segment. -/
theorem shows_iff {t : SegmentTemplate} {v : String} {front back : List (List Char)} {a : Address}
    (long : front.length = t.front.length) (long' : back.length = t.back.length)
    (whole : ∀ s ∈ front ++ back, ∀ c ∈ s, endsSegment c = false)
    (plain : ∀ s ∈ front ++ back, ¬IsDots s)
    (path : a.segments = walk [] (front ++ percentChars unreserved v.toList :: back)) :
    t.Shows a.target v ↔ v ≠ "." ∧ v ≠ ".." := by
  have apart : ∀ s ∈ a.segments, ∀ c ∈ s, c ≠ '/' ∧ c ≠ '?' := by
    rw [path]
    exact walk_apart whole
  have count : t.segments.length = front.length + 1 + back.length := by
    simp only [SegmentTemplate.segments, List.length_append, List.length_cons, long, long']
    omega
  rw [SegmentTemplate.Shows, targetSegments_target apart, path, count, ← long]
  constructor
  · rintro ⟨same, s, here, read⟩
    by_contra dots
    have dots : v = "." ∨ v = ".." := by tauto
    rw [getElem?_walk_dots plain dots same] at here
    obtain rfl : [] = s := Option.some.inj here
    rw [percentDecode?_nil] at read
    obtain rfl := Option.some.inj read
    exact dots.elim (by decide) (by decide)
  · intro value
    refine ⟨?_, percentChars unreserved v.toList, getElem?_walk_value plain value,
      percentDecode?_percentChars keeps_unreserved v⟩
    rw [walk_value plain value]
    simp only [List.length_append, List.length_cons, List.length_map]
    omega

section Requests
variable {endpoint : Option String} {r : Request} {t : SegmentTemplate} {v : String}

/-- Sending does not depend on the value, and shows it in its place if it is no dot segment. -/
theorem outgoing_value (path : r.path = t.text)
    (bound : r.pathParams.get? (String.ofList t.name) = some v)
    (others : t.OthersStay r.pathParams.get?) {origin : Origin}
    (base : (baseText endpoint r).toList = origin.text) (direct : r.method ≠ "CONNECT") :
    ((∃ o, outgoing endpoint r = .ok o) ↔
      isToken r.method ∧ origin.authority?.isSome ∧ r.headers.all isHeader) ∧
    ∀ o, outgoing endpoint r = .ok o → (t.Shows o.target v ↔ v ≠ "." ∧ v ≠ "..") := by
  obtain ⟨front, back, query, earlier, later, -, made⟩ := exists_address path bound others base
  have stay : ∀ s ∈ front ++ back, (∀ c ∈ s, endsSegment c = false) ∧ ¬IsDots s := by
    have own : ∀ {filled segments : List (List Char)}, List.Forall₂ Cleaned filled segments →
        (∀ s ∈ filled, (∀ c ∈ s, endsSegment c = false) ∧ ∀ u, Cleaned s u → ¬IsDots u) →
        ∀ s ∈ segments, (∀ c ∈ s, endsSegment c = false) ∧ ¬IsDots s := by
      intro filled segments each stay s mem
      obtain ⟨u, here, cleaned⟩ := Sequence.exists_mem_left each mem
      exact ⟨fun c inside => (stay u here).1 c (cleaned.mem inside), (stay u here).2 s cleaned⟩
    have filled : ∀ segments ⊆ t.front ++ t.back,
        ∀ s ∈ segments.map (expandFrom r.pathParams.get? none),
          (∀ c ∈ s, endsSegment c = false) ∧ ∀ u, Cleaned s u → ¬IsDots u := by
      intro segments inside s mem
      obtain ⟨u, here, rfl⟩ := List.mem_map.mp mem
      exact others u (inside here)
    intro s mem
    rcases List.mem_append.mp mem with mem | mem
    · exact own earlier (filled _ (List.subset_append_left ..)) s mem
    · exact own later (filled _ (List.subset_append_right ..)) s mem
  constructor
  · rw [exists_outgoing_iff, made, Option.isSome_map]
  · intro o sent
    obtain ⟨address, found, target⟩ := outgoing_eq_ok sent
    rw [made] at found
    obtain ⟨authority, -, rfl⟩ := Option.map_eq_some_iff.mp found
    rw [target, targetFor, if_neg direct]
    refine shows_iff ?_ ?_ (fun s mem => (stay s mem).1) (fun s mem => (stay s mem).2)
      (segments_addPairs _ _)
    · rw [← earlier.length_eq, List.length_map]
    · rw [← later.length_eq, List.length_map]

end Requests

/-- The template of the operations on one widget. -/
def widgetTemplate : SegmentTemplate where
  front := ["widgets".toList]
  name := "WidgetId".toList
  back := []
  tail := []
  plain := by decide
  single := by decide
  closed := by decide
  follows := nofun

theorem expandFrom_widgets (value? : String → Option String) :
    expandFrom value? none "widgets".toList = "widgets".toList := rfl

theorem widgetTemplate_othersStay (value? : String → Option String) :
    widgetTemplate.OthersStay value? := by
  intro s mem
  obtain rfl := List.mem_singleton.mp mem
  rw [expandFrom_widgets]
  refine ⟨by simp [endsSegment, isSlash], fun u cleaned => ?_⟩
  obtain rfl := cleaned.eq (by simp [isBlank])
  unfold IsDots
  decide

/-- The request of an operation on one widget. -/
def widgetRequest (method region id : String) : Request where
  method
  endpointPrefix := "widgets"
  region
  path := widgetTemplate.text
  pathParams := [("WidgetId", id)]

/-- A widget is addressed by its encoded id, unless this is a dot segment. -/
theorem widget_target {endpoint : Option String} {method region id : String} {origin : Origin}
    (base : (baseText endpoint (widgetRequest method region id)).toList = origin.text)
    (direct : method ≠ "CONNECT") {o : Outgoing}
    (sent : outgoing endpoint (widgetRequest method region id) = .ok o) :
    o.target = "/widgets/" ++ percentEncode unreserved id ↔ id ≠ "." ∧ id ≠ ".." := by
  have bound : (widgetRequest method region id).pathParams.get?
      (String.ofList widgetTemplate.name) = some id := by
    simp [widgetRequest, widgetTemplate, Table.get?]
  obtain ⟨front, back, query, earlier, later, bare, made⟩ :=
    exists_address rfl bound (widgetTemplate_othersStay _) base
  obtain rfl : query = none := bare rfl
  obtain rfl : front = ["widgets".toList] := by
    obtain ⟨s, rest, own, none, rfl⟩ := List.forall₂_cons_left_iff.mp earlier
    cases none
    rw [expandFrom_widgets] at own
    rw [own.eq (by simp [isBlank])]
  obtain rfl : back = [] := by
    cases later
    rfl
  obtain ⟨address, found, target⟩ := outgoing_eq_ok sent
  rw [made] at found
  obtain ⟨authority, -, rfl⟩ := Option.map_eq_some_iff.mp found
  have plain : ∀ s ∈ ["widgets".toList] ++ [], ¬IsDots s := by
    unfold IsDots
    decide
  have shown : o.target = String.ofList
      (joined (walk [] (["widgets".toList] ++ percentChars unreserved id.toList :: []))) := by
    have own : (widgetRequest method region id).method ≠ "CONNECT" := direct
    rw [target, targetFor, if_neg own]
    exact congrArg String.ofList (List.append_nil _)
  rw [shown]
  constructor
  · intro same
    refine ⟨?_, ?_⟩ <;> rintro rfl <;> revert same <;> decide
  · intro value
    have kept : percentChars keepInPath "widgets".toList = "widgets".toList := by decide
    have path : joined (["widgets".toList].map (percentChars keepInPath) ++
        percentChars unreserved id.toList :: [].map (percentChars keepInPath)) =
          "/widgets/".toList ++ percentChars unreserved id.toList := by
      rw [List.map_cons, List.map_nil, kept]
      exact congrArg ("/widgets/".toList ++ ·) (List.append_nil _)
    rw [walk_value plain value, path, String.ofList_append, String.ofList_toList]
    rfl

/-- A value that fills a segment is sent as the segment in its place exactly if it is no dot
segment, and in any case the request is sent as it would be with another value. So the id of a
widget is all that is addressed below the widgets, unless it is one or two dots. -/
theorem path_value_kept_iff (endpoint : Option String) (origin : Origin) :
    (∀ (r : Request) (t : SegmentTemplate) (v : String), r.path = t.text →
      t.OthersStay (r.setPathParam (String.ofList t.name) v).pathParams.get? →
      (baseText endpoint r).toList = origin.text → r.method ≠ "CONNECT" →
      ((∃ o, outgoing endpoint (r.setPathParam (String.ofList t.name) v) = .ok o) ↔
        isToken r.method ∧ origin.authority?.isSome ∧ r.headers.all isHeader) ∧
      ∀ o, outgoing endpoint (r.setPathParam (String.ofList t.name) v) = .ok o →
        (t.Shows o.target v ↔ v ≠ "." ∧ v ≠ "..")) ∧
    ∀ region id operation, operation = "GetWidget" ∨ operation = "DeleteWidget" →
      ∃ op r, Widgets.plan.method? operation = some op ∧
        request? Widgets.plan region op (some (.struct [("id", some (.text id))])) = some r ∧
        percentDecode? (percentChars unreserved id.toList) = some id ∧
        ((baseText endpoint r).toList = origin.text → ∀ o, outgoing endpoint r = .ok o →
          (o.target = "/widgets/" ++ percentEncode unreserved id ↔ id ≠ "." ∧ id ≠ "..")) := by
  constructor
  · intro r t v path others base direct
    have bound : (r.setPathParam (String.ofList t.name) v).pathParams.get?
        (String.ofList t.name) = some v :=
      (Table.get?_put ..).trans (if_pos rfl)
    have sameBase : baseText endpoint (r.setPathParam (String.ofList t.name) v) =
        baseText endpoint r := by
      cases endpoint <;> rfl
    exact outgoing_value (r := r.setPathParam (String.ofList t.name) v) path bound others
      (sameBase ▸ base) direct
  · intro region id operation named
    have read := percentDecode?_percentChars keeps_unreserved id
    rcases named with rfl | rfl
    · exact ⟨_, widgetRequest "GET" region id, rfl, rfl, read,
        fun base o sent => widget_target base (by decide) sent⟩
    · exact ⟨_, widgetRequest "DELETE" region id, rfl, rfl, read,
        fun base o sent => widget_target base (by decide) sent⟩

/-- The host of the widgets in a region. -/
def widgetOrigin : Origin where
  scheme := "https".toList
  slashes := "//".toList
  authority := "widgets.us-east-1.amazonaws.com".toList
  scheme_ends := by decide
  only_slashes := by simp [isSlash]
  given := by decide
  whole := by simp [endsSegment, isSlash]
  solid := by simp [isBlank]

/-- A deletion before the id of the widget is set. -/
def deletion : Request where
  method := "DELETE"
  endpointPrefix := "widgets"
  region := "us-east-1"
  path := "/widgets/\x7bWidgetId\x7d"

theorem slash_kept_in_segment :
    ∃ o, outgoing none (deletion.setPathParam "WidgetId" "a/../b") = .ok o ∧
      widgetTemplate.Shows o.target "a/../b" := by
  obtain ⟨sendable, shown⟩ := (path_value_kept_iff none widgetOrigin).1 deletion widgetTemplate
    "a/../b" rfl (widgetTemplate_othersStay _) rfl (by decide)
  have delivered : isToken deletion.method ∧ widgetOrigin.authority?.isSome ∧
      deletion.headers.all isHeader := by
    decide +kernel
  obtain ⟨o, sent⟩ := sendable.mpr delivered
  exact ⟨o, sent, (shown o sent).mpr (by decide)⟩

/-- The deletion of a widget called by two dots is sent to the root. -/
theorem dots_leave_segment :
    ∃ op o, Widgets.plan.method? "DeleteWidget" = some op ∧
      request? Widgets.plan "us-east-1" op (some (.struct [("id", some (.text ".."))])) =
        some (deletion.setPathParam "WidgetId" "..") ∧
      outgoing none (deletion.setPathParam "WidgetId" "..") = .ok o ∧ o.target = "/" ∧
      ¬widgetTemplate.Shows o.target ".." := by
  have sent : (outgoing none (deletion.setPathParam "WidgetId" "..")).toOption.map (·.target) =
      some "/" := by
    decide +kernel
  obtain ⟨o, made, target⟩ := Option.map_eq_some_iff.mp sent
  refine ⟨_, o, rfl, rfl, Generator.eq_ok_of_toOption made, target, fun shown => ?_⟩
  have count := shown.1
  rw [target] at count
  exact absurd count (by decide)

end ServiceClient.Http
