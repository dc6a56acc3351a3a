import CourierDispatch.Maps.Surroundings
import CourierDispatch.Proofs.Cancellation
import CourierDispatch.Proofs.Links
import CourierDispatch.Proofs.Overwriting
import CourierDispatch.Proofs.Release
import CourierDispatch.Service.Run
import CourierDispatch.Simulation.Script
import CourierDispatch.Simulation.Stage
import CourierDispatch.Proofs.Search.Deeds
import CourierDispatch.Proofs.Stranding
import CourierDispatch.Proofs.Eligibility
import CourierDispatch.Proofs.Account
import CourierDispatch.Proofs.FanOut
import CourierDispatch.Proofs.Store.History
import CourierDispatch.Proofs.Caching
import CourierDispatch.Proofs.Deadline
import CourierDispatch.Proofs.Slots
import CourierDispatch.Proofs.Bus.Reader
import CourierDispatch.Proofs.Feeds
import CourierDispatch.Proofs.Conduct.Composition
import CourierDispatch.Proofs.Conduct.Bindings
import CourierDispatch.Proofs.Service.Readings
import CourierDispatch.Proofs.Fare.Course
import CourierDispatch.Proofs.Service.Bookings
import CourierDispatch.Proofs.Service.Billing
import CourierDispatch.Proofs.Service.Turns
import CourierDispatch.Proofs.Charging
import CourierDispatch.Proofs.Conduct.Consultation
import CourierDispatch.Proofs.Service.Supplies
import CourierDispatch.Proofs.Rerouting
import CourierDispatch.Proofs.Conduct.Quoting
import CourierDispatch.Proofs.Geo.Rounding
import CourierDispatch.Proofs.Service.Keeping
import CourierDispatch.Proofs.Revisiting
import CourierDispatch.Proofs.Conduct.Failing
import CourierDispatch.Proofs.Refusal
import CourierDispatch.Proofs.Indifference
import CourierDispatch.Proofs.Conduct.Counting
import CourierDispatch.Proofs.Service.Ledger
import CourierDispatch.Proofs.Repetition
import CourierDispatch.Proofs.References
import CourierDispatch.Proofs.Store.Binding
import CourierDispatch.Proofs.Pricing
import CourierDispatch.Proofs.Offering
import CourierDispatch.Proofs.Job.Completion
import CourierDispatch.Proofs.PriceOrder
import CourierDispatch.Proofs.Quote.Course
import CourierDispatch.Proofs.Itinerary
import CourierDispatch.Proofs.Maps.Segment
import CourierDispatch.Proofs.Maps.Addressing
import CourierDispatch.Proofs.Maps.Body
import CourierDispatch.Proofs.Maps.Trust
import CourierDispatch.Proofs.Geo.Writing
import CourierDispatch.Proofs.Provenance
import CourierDispatch.Proofs.Cache.Traffic
import CourierDispatch.Proofs.Wire.Text
import CourierDispatch.Proofs.Wire.Route
import CourierDispatch.Proofs.Breakdown
