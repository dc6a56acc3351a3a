import CourierDispatch.Maps.Client
import CourierDispatch.Service.World

/-!
# A service on the maps client

The surroundings of a service whose directions and places come from the maps services, as the `AppState`
of a running dispatcher has them.
-/

namespace CourierDispatch.Maps

/-- Some surroundings with the collaborators of a client. The answers do not depend on how many
there were before. -/
def Client.surroundings (c : Client) (t : Transport) (rest : Surroundings) : Surroundings :=
  { rest with
    directions := fun _ => c.computeRoute t
    placeDetails := c.placeDetails t
    autocomplete := c.autocomplete t }

end CourierDispatch.Maps
