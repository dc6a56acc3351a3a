import CourierDispatch.Proofs.Service.FreshId
import CourierDispatch.Proofs.Trip.Pending

/-!
# The conduct of a process

What every process keeps to (`Conduct`), whatever the replies: a new record gets the id that
was drawn for it, a message is the notice of the status written last, and what a status calls for is
told before anything else is done, a courier is let go only for a trip that was seen to be over, and
nothing that may break down is asked for while a courier is owed its release. A job that keeps to it,
and has nothing to tell and owes nothing when it ends, if it was so when it began, is one that
`Behaves`; sequencing keeps this (`Behaves.bind`).

The last two parts hold of the calls that are offered to callers, which leave out a bare report
and a bare release.
-/

namespace CourierDispatch

open Job

/-- The calls that are offered to callers. A bare report and a bare release are parts of others. -/
def Call.offered : Call → Bool
  | .reportStatus .. | .release _ => false
  | _ => true

/-- The operations of the service, and the requests that reach it. -/
def Call.dispatches : Call → Bool
  | .createTrip .. | .computeRoute .. | .reportTripStatus .. | .assignCourier .. | .confirmPickup ..
  | .nearbyCouriers .. | .tripDetails _ | .autocomplete _ | .request _ => true
  | _ => false

/-- A call that does not keep a way by itself. -/
def Call.keepsNothing : Call → Bool
  | .cacheSet .. => false
  | _ => true

/-- A message is the notice of the trip as the last report wrote it. -/
def Announces (past : List Exchange) : Effect → Prop
  | .publish channel u => ∃ trip status t, lastReport past = some (trip, status, t) ∧
      channel ∈ status.channels ∧ (status = .cancelled → t.courierId = none) ∧ u.Tells t
  | _ => True

structure Conduct (offered : Prop) (past : List Exchange) (e : Effect) : Prop where
  fresh : UsesDrawn past e
  announced : Announces past e
  speaks : Speaks past e
  justified : offered → ∀ trip, e = .store (.unassignTrip trip) → ∃ x ∈ past, x.Closes trip
  sturdy : offered → ∀ key route ttl, e = .cacheSet key route ttl → ∀ trip, ¬ Owes trip past

/-- No courier is owed its release, and nothing is still to be told. -/
structure Clear (offered : Prop) (past : List Exchange) : Prop where
  paid : offered → ∀ trip, ¬ Owes trip past
  said : Said past

/-- A job that keeps to the conduct, and leaves nothing owed or untold. -/
def Behaves {α : Type} (offered : Prop) (j : Job α) : Prop :=
  ∀ past, Clear offered past → Meets (Conduct offered) (fun past _ => Clear offered past) past j

/-- An effect that writes no status, lets no courier go, makes no record and announces nothing. -/
def Effect.plain : Effect → Bool
  | .store (.createTrip ..) | .store (.setTripStatus ..) | .store (.unassignTrip _)
  | .store (.upsertCourier _) | .store (.upsertProduct _) | .publish .. => false
  | _ => true

/-- An effect that asks for a record or for a way and changes no record. -/
def Effect.inquires : Effect → Bool
  | .store op => op.reads
  | .cacheGet _ | .cacheSet .. | .computeRoute .. | .placeDetails _ | .autocomplete _
  | .countLookup _ => true
  | _ => false

/-- An effect in the look-up of directions. -/
def Effect.looksUp : Effect → Bool
  | .cacheGet _ | .cacheSet .. | .computeRoute .. | .countLookup _ => true
  | _ => false

variable {α β : Type} {offered : Prop} {past : List Exchange} {e : Effect}

theorem Effect.inquires_of_looksUp (looksUp : e.looksUp) : e.inquires := by
  cases e <;> first | rfl | cases looksUp

theorem Effect.plain_of_inquires (inquires : e.inquires) : e.plain := by
  cases e with
  | store op => cases op <;> first | rfl | cases inquires
  | _ => first | rfl | cases inquires

theorem written?_of_plain (plain : e.plain) (r : e.Reply) : Exchange.written? ⟨e, r⟩ = none := by
  cases e with
  | store op => cases op <;> first | rfl | cases plain
  | _ => rfl

theorem Clear.next (clear : Clear offered past) {x : Exchange} (unwritten : x.written? = none) :
    Clear offered (x :: past) where
  paid ours trip owes := clear.paid ours trip (owes_of_unwritten unwritten owes)
  said := clear.said.next unwritten

theorem clear_nil : Clear offered [] := ⟨fun _ => owes_nil, said_nil⟩

theorem conduct_of_plain (plain : e.plain) (clear : Clear offered past) :
    Conduct offered past e where
  fresh := by
    cases e with
    | store op => cases op <;> trivial
    | _ => trivial
  announced := by cases e <;> trivial
  speaks := .otherwise clear.said (by rintro channel u rfl; cases plain)
  justified _ trip h := by subst h; cases plain
  sturdy ours _ _ _ _ := clear.paid ours

/-- The conduct for an effect that can neither break down nor let a courier go. -/
theorem Conduct.of_parts (fresh : UsesDrawn past e) (announced : Announces past e)
    (speaks : Speaks past e) (keeps : ∀ trip, e ≠ .store (.unassignTrip trip))
    (lasts : ∀ key route ttl, e ≠ .cacheSet key route ttl) : Conduct offered past e :=
  ⟨fresh, announced, speaks, fun _ trip h => absurd h (keeps trip),
    fun _ key route ttl h => absurd h (lasts key route ttl)⟩

theorem Conduct.mono {ours : Prop} (h : Conduct offered past e) (fewer : ours → offered) :
    Conduct ours past e :=
  ⟨h.fresh, h.announced, h.speaks, fun o => h.justified (fewer o), fun o => h.sturdy (fewer o)⟩

/-! ## Sequencing -/

theorem behaves_pure (a : α) : Behaves offered (pure a) := fun _ clear => clear

theorem behaves_panic : Behaves offered (.panic : Job α) := fun _ clear => clear

theorem Behaves.bind {j : Job α} {f : α → Job β} (first : Behaves offered j)
    (second : ∀ a, Behaves offered (f a)) : Behaves offered (j >>= f) :=
  fun past clear => (first past clear).bind (fun _ clear => clear) fun past a => second a past

theorem Behaves.map {j : Job α} {f : α → β} (h : Behaves offered j) :
    Behaves offered (f <$> j) := h.bind fun _ => behaves_pure _

theorem behaves_act {next : e.Reply → Job α} (plain : e.plain)
    (then_ : ∀ r, Behaves offered (next r)) : Behaves offered (.act e next) := fun _ clear =>
  ⟨conduct_of_plain plain clear, fun r _ => then_ r _ (clear.next (written?_of_plain plain r))⟩

theorem Behaves.of_only {ends : α → Prop} {j : Job α} (only : j.Only (·.plain) ends) :
    Behaves offered j := fun _ clear =>
  (only.meets clear (fun _ _ clear plain => conduct_of_plain plain clear)
    fun _ _ r clear plain => clear.next (written?_of_plain plain r)).mono (fun _ _ h => h)
      fun _ _ h => h.1

theorem Behaves.attempt {a : Attempt α} {f : α → Attempt β} (first : Behaves offered a.run)
    (second : ∀ v, Behaves offered (f v).run) : Behaves offered (a >>= f).run := by
  refine Behaves.bind first fun r => ?_
  cases r with
  | ok v => exact second v
  | error e => exact behaves_pure _

theorem Behaves.of_attempt {a : Attempt α} (only : Attempt.Only (·.plain) a) :
    Behaves offered a.run := .of_only only

theorem Behaves.of_inquiry {a : Attempt α} (only : Attempt.Only (·.inquires) a) :
    Behaves offered a.run := .of_attempt (only.mono fun _ => Effect.plain_of_inquires)

end CourierDispatch
