import CourierDispatch.Notice
import CourierDispatch.Proofs.Wire.Identifier
import CourierDispatch.Proofs.Wire.Record

/-!
# Updates are read back

What is announced about a trip is read from its own value as it was, as long as the coordinates in it
are finite (`TripUpdate.decode_encode`). A coordinate that is not finite is written as `null`, which no
reader takes for a number.
-/

namespace CourierDispatch

open Json (Absence Decoder Shape Value member?_memberDocuments)

theorem TripStatus.decode_encode (s : TripStatus) : decode.ofValue s.encode = .ok s := by
  simp [Decoder.ofValue, decode, Decoder.choice, encode, Value.document, named?_text]

namespace GeoPoint

/-- Both coordinates are numbers that can be written. -/
def Finite (p : GeoPoint) : Prop := p.lat.isFinite = true ∧ p.lng.isFinite = true

theorem decode_encode {p : GeoPoint} (h : p.Finite) : decode.ofValue p.encode = .ok p := by
  have lat := Decoder.real_ofValue_real h.1
  have lng := Decoder.real_ofValue_real h.2
  rw [Decoder.ofValue] at lat lng
  refine Shape.decode_record (by simp) ?_ ?_
  · simp [shape, Shape.map, Shape.andThen, Shape.required, Shape.field, List.lookup_cons, lat, lng,
      Except.map]
  · simp [shape, Shape.map, Shape.andThen, Shape.required, Shape.field, member?_memberDocuments,
      List.lookup_cons, lat, lng, Except.map]
    rfl

end GeoPoint

namespace TripUpdate

/-- The coordinates in an update can be written. -/
def Finite (u : TripUpdate) : Prop := ∀ p, u.courierLocation = some p → p.Finite

theorem decode_encode {u : TripUpdate} (h : u.Finite) : decode.ofValue u.encode = .ok u := by
  obtain ⟨trip, status, courier, location⟩ := u
  have htrip := Uuid.decode_encode trip
  have hstatus := TripStatus.decode_encode status
  have hcourier (c : Uuid) := Decoder.optional_ofValue (by simp [Uuid.encode]) (Uuid.decode_encode c)
  have hlocation (p : GeoPoint) (there : location = some p) :=
    Decoder.optional_ofValue (by simp [GeoPoint.encode]) (GeoPoint.decode_encode (h p there))
  simp only [Decoder.ofValue] at htrip hstatus hcourier hlocation
  -- the two members that are left out where there is no value make four cases
  refine Shape.decode_record ?_ ?_ ?_
  · cases courier <;> cases location <;> simp [memberOf]
  · cases courier <;> cases location <;>
      simp [shape, Shape.map, Shape.andThen, Shape.required, Shape.withDefault, Shape.field,
        memberOf, List.lookup_cons, htrip, hstatus, hcourier, hlocation, Except.map]
  · cases courier <;> cases location <;>
      simp [shape, Shape.map, Shape.andThen, Shape.required, Shape.withDefault, Shape.field,
        Absence.ofMembers, memberOf, member?_memberDocuments, List.lookup_cons, htrip, hstatus, hcourier,
        hlocation, Except.map] <;> rfl

end TripUpdate

end CourierDispatch
