import CourierDispatch.Maps.Answer

/-!
# Bodies of answers

What the services write, with left out what they leave out: `RoutesBody`, `PlaceBody`,
`SuggestionsBody`. An answer is read at once into what is wanted of it. That comes to the same as reading
its body and looking into that (`routes_eq`, `place_eq`, `suggestions_eq`), because to read something and
to change it is to read the changed thing, for fields, lists and records (`Shape.decode_map`).
-/

namespace CourierDispatch

namespace Json

variable {α β γ : Type}

/-! ## Reading and changing -/

/-- Reads something and changes it. -/
def Decoder.map (f : α → β) (decode : Decoder α) : Decoder β := fun d => (decode d).map f

theorem map_map_except {ε : Type} (f : α → β) (g : β → γ) (r : Except ε α) :
    (r.map f).map g = r.map fun a => g (f a) := by
  cases r <;> rfl

namespace Decoder

theorem map_map (f : α → β) (g : β → γ) (decode : Decoder α) :
    (decode.map f).map g = decode.map fun a => g (f a) :=
  funext fun d => map_map_except f g (decode d)

theorem optional_map (f : α → β) (decode : Decoder α) :
    optional (decode.map f) = (optional decode).map (Option.map f) := by
  funext d
  have changed (d : Document) : ((decode d).map f).map some = ((decode d).map some).map (Option.map f) := by
    rw [map_map_except, map_map_except]
    rfl
  cases d with
  | null => rfl
  | _ => exact changed _

theorem mapM_map (f : α → β) (decode : Decoder α) (items : List Document) :
    items.mapM (decode.map f) = (items.mapM decode).map (List.map f) := by
  induction items with
  | nil => rfl
  | cons d items ih =>
    rw [List.mapM_cons, List.mapM_cons, ih, map]
    cases decode d with
    | error => rfl
    | ok => cases items.mapM decode <;> rfl

theorem list_map (f : α → β) (decode : Decoder α) : list (decode.map f) = (list decode).map (List.map f) := by
  funext d
  cases d with
  | list items ending =>
    change (items.mapM (decode.map f) >>= fun values => ending.check >>= fun _ => .ok values) =
      (items.mapM decode >>= fun values => ending.check >>= fun _ => .ok values).map (List.map f)
    rw [mapM_map]
    cases items.mapM decode with
    | error => rfl
    | ok => cases ending.check <;> rfl
  | _ => rfl

theorem readAll_map (f : α → β) (decode : Decoder α) (s : String) :
    (decode.map f).readAll s = (decode.readAll s).map f := by
  unfold readAll map
  obtain ⟨d, alone⟩ := Document.readAll s
  dsimp only
  cases decode d with
  | error => rfl
  | ok => cases alone <;> rfl

end Decoder

def Absence.map (f : α → β) : Absence α → Absence β
  | .refused => .refused
  | .inRecord a => .inRecord (f a)
  | .anywhere a => .anywhere (f a)

namespace Shape

theorem field_map (name : String) (f : α → β) (absence : Absence α) (decode : Decoder α) :
    field name (absence.map f) (decode.map f) = (field name absence decode).map f := by
  unfold field map
  congr 1
  · simp only [Decoder.map, map_map_except]
  · funext members
    dsimp only
    cases member? name members with
    | none => cases absence <;> rfl
    | some d => rfl
  · funext items ending
    dsimp only
    cases items with
    | nil => dsimp only; cases ending.check <;> cases absence <;> rfl
    | cons d rest => simp only [Decoder.map, map_map_except]

theorem nullable_map (name : String) (f : α → β) (decode : Decoder α) :
    nullable name (decode.map f) = (nullable name decode).map (Option.map f) := by
  rw [nullable, Decoder.optional_map]
  exact field_map name (Option.map f) (.inRecord none) _

/-- A field that may be left out, of a record or of a list. -/
def omissible (name : String) (decode : Decoder α) : Shape (Option α) :=
  field name (.anywhere none) (decode.map some)

/-- A field with a default is one that may be left out, and then counts as this. -/
theorem withDefault_eq (name : String) (instead : α) (decode : Decoder α) :
    withDefault name instead decode = (omissible name decode).map (·.getD instead) := by
  have back : decode = (decode.map some).map (·.getD instead) := by
    funext d
    exact ((map_map_except ..).trans (by cases decode d <;> rfl)).symm
  conv => lhs; rw [withDefault, back]
  exact field_map name (·.getD instead) (.anywhere none) _

theorem omissible_map (name : String) (f : α → β) (decode : Decoder α) :
    omissible name (decode.map f) = (omissible name decode).map (Option.map f) := by
  rw [omissible, omissible, ← field_map, Decoder.map_map, Decoder.map_map]
  rfl

theorem map_map (f : α → β) (g : β → γ) (s : Shape α) : (s.map f).map g = s.map fun a => g (f a) := by
  unfold map
  simp only [map_map_except]

theorem map_andThen {δ : Type} (f : α → β) (s : Shape α) (t : Shape δ) :
    (s.map f).andThen t = (s.andThen t).map fun (a, c) => (f a, c) := by
  unfold andThen map
  congr 1
  · funext members
    dsimp only
    cases s.ofMembers members with
    | error => rfl
    | ok => cases t.ofMembers members <;> rfl
  · funext items ending
    dsimp only
    cases s.ofItems items ending with
    | error => rfl
    | ok read =>
      dsimp only [Except.map, bind, Except.bind]
      cases t.ofItems read.2 ending <;> rfl

theorem andThen_map {δ : Type} (g : γ → δ) (s : Shape α) (t : Shape γ) :
    s.andThen (t.map g) = (s.andThen t).map fun (a, c) => (a, g c) := by
  unfold andThen map
  congr 1
  · funext members
    dsimp only
    cases s.ofMembers members with
    | error => rfl
    | ok => cases t.ofMembers members <;> rfl
  · funext items ending
    dsimp only
    cases s.ofItems items ending with
    | error => rfl
    | ok read =>
      dsimp only [Except.map, bind, Except.bind]
      cases t.ofItems read.2 ending <;> rfl

/-- To read a record and to change it is to read the changed record. -/
theorem decode_map (f : α → β) (s : Shape α) : (s.map f).decode = s.decode.map f := by
  funext d
  cases d with
  | record members ending =>
    dsimp only [decode, Decoder.map, map, bind, Except.bind]
    cases scan Document.intact s.checks [] members with
    | error => rfl
    | ok => cases ending.check <;> rfl
  | list items ending =>
    dsimp only [decode, Decoder.map, map, bind, Except.bind]
    cases s.ofItems items ending with
    | error => rfl
    | ok read =>
      obtain ⟨a, rest⟩ := read
      dsimp only [Except.map]
      split
      · cases ending.check <;> rfl
      · rfl
  | _ => rfl

end Shape

end Json

namespace Maps

open Json (Decoder Shape)

variable {α β : Type}

/-! ## Directions -/

/-- A route as it is written; there may be a polyline that is not encoded. -/
structure RouteBody where
  distanceMeters : Option UInt64
  duration : Option String
  staticDuration : Option String
  polyline : Option (Option String)
  deriving DecidableEq, Repr

def RouteBody.shape : Shape RouteBody :=
  ((((Shape.omissible "distanceMeters" Decoder.natural).andThen
    (Shape.nullable "duration" Decoder.text)).andThen
    (Shape.nullable "staticDuration" Decoder.text)).andThen
    (Shape.nullable "polyline" (Shape.omissible "encodedPolyline" Decoder.text).decode)).map
      fun (((distanceMeters, duration), staticDuration), polyline) =>
        ⟨distanceMeters, duration, staticDuration, polyline⟩

/-- What a route tells: what is left out of it is empty or zero. -/
def RouteBody.directions (b : RouteBody) : Directions :=
  ⟨b.polyline.join.getD "", b.distanceMeters.getD 0, durationSecs b.duration,
    durationSecs b.staticDuration⟩

structure RoutesBody where
  routes : Option (List RouteBody)
  error : Option ApiError
  deriving DecidableEq, Repr

def RoutesBody.shape : Shape RoutesBody :=
  ((Shape.omissible "routes" (Decoder.list RouteBody.shape.decode)).andThen
    (Shape.nullable "error" ApiError.shape.decode)).map fun (routes, error) => ⟨routes, error⟩

theorem route_eq : routeShape = RouteBody.shape.map RouteBody.directions := by
  unfold routeShape RouteBody.shape
  simp only [Shape.withDefault_eq, Shape.decode_map, Shape.nullable_map, Shape.map_andThen,
    Shape.andThen_map, Shape.map_map]
  congr 1
  funext ⟨⟨⟨distance, duration⟩, staticDuration⟩, polyline⟩
  cases polyline <;> rfl

theorem withError_map (f : α → β) (s : Shape α) :
    withError (s.map f) = (withError s).map fun (a, fault) => (f a, fault) := by
  unfold withError
  rw [Shape.map_andThen, Shape.decode_map]

theorem routes_eq : withError routesShape = RoutesBody.shape.decode.map fun b =>
    ((b.routes.getD []).map RouteBody.directions, b.error) := by
  unfold routesShape RoutesBody.shape
  rw [route_eq, Shape.decode_map, Decoder.list_map, Shape.withDefault_eq, Shape.omissible_map,
    Shape.map_map, withError_map, Shape.decode_map, Decoder.map_map]
  unfold withError
  congr 1
  funext ⟨routes, error⟩
  cases routes <;> rfl

/-! ## Places -/

structure PlaceBody where
  id : Option String
  address : Option String
  location : Option GeoPoint
  error : Option ApiError
  deriving DecidableEq, Repr

def PlaceBody.shape : Shape PlaceBody :=
  ((((Shape.omissible "id" Decoder.text).andThen
    (Shape.omissible "formattedAddress" Decoder.text)).andThen
    (Shape.nullable "location" locationShape.decode)).andThen
    (Shape.nullable "error" ApiError.shape.decode)).map
      fun (((id, address), location), error) => ⟨id, address, location, error⟩

/-- A suggested place; its text may be missing. -/
structure PredictionBody where
  placeId : String
  text : Option String
  deriving DecidableEq, Repr

def PredictionBody.shape : Shape PredictionBody :=
  ((Shape.required "placeId" Decoder.text).andThen
    (Shape.nullable "text" (Shape.required "text" Decoder.text).decode)).map
      fun (placeId, text) => ⟨placeId, text⟩

/-- Suggestions, some of which predict no place. -/
structure SuggestionsBody where
  suggestions : Option (List (Option PredictionBody))
  error : Option ApiError
  deriving DecidableEq, Repr

def SuggestionsBody.shape : Shape SuggestionsBody :=
  ((Shape.omissible "suggestions" (Decoder.list
    (Shape.nullable "placePrediction" PredictionBody.shape.decode).decode)).andThen
    (Shape.nullable "error" ApiError.shape.decode)).map fun (suggestions, error) => ⟨suggestions, error⟩

end Maps

end CourierDispatch
