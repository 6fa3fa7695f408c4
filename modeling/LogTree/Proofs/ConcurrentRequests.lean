import Mathlib
import LogTree.Proofs.RegistryLikeness
import LogTree.Proofs.RequestedNames
import LogTree.Proofs.SessionOperations
import LogTree.Traffic

/-!
Requests from several threads. In whatever order the threads have their turns, the registry comes to
what the same requests come to one after another: the same names below the same parents, the same
levels and switches, and one handler where a request has asked for output and there was none.
-/

namespace LogTree

namespace Request

def handler? : Request → Option Handler
  | logger _ => none
  | build _ echo handler => if echo.isEnabled then some handler else none

def outletOn (request : Request) (id : LoggerId) : Outlet :=
  match request with
  | logger _ => .direct id
  | build _ echo _ => .ofEcho echo id

def adjustment (request : Request) : Adjustment :=
  match request.handler? with
  | none => .keep
  | some handler => .offer (some handler)

theorem serve_fst (request : Request) (registry : Registry) :
    (request.serve registry).1 = registry.perform (.adjust request.name 0 request.adjustment) := by
  cases request with
  | logger name => exact (Registry.perform_keep registry name 0).symm
  | build name echo handler =>
      refine (Registry.perform_building registry name echo fun _ => some handler).symm.trans ?_
      rw [Registry.building, adjustment, handler?]
      cases echo <;> rfl

theorem serve_snd (request : Request) (registry : Registry) :
    (request.serve registry).2 = request.outletOn (registry.obtain request.name).id := by
  cases request with
  | logger name => rfl
  | build name echo handler => exact Registry.outlet_buildWith registry name echo _

theorem sameButHandlers_adjustment (request : Request) (settings : Settings) :
    settings.SameButHandlers (request.adjustment.apply settings) := by
  rw [adjustment]
  split
  · exact ⟨rfl, rfl⟩
  · rw [Adjustment.apply]
    split <;> exact ⟨rfl, rfl⟩

theorem handlers_adjustment (request : Request) (settings : Settings) :
    (request.adjustment.apply settings).handlers =
      if settings.handlers = [] then request.handler?.toList else settings.handlers := by
  rw [adjustment]
  cases request.handler? with
  | none =>
      rw [Adjustment.apply]
      split
      · assumption
      · rfl
  | some handler => exact apply_ite Settings.handlers _ _ _

end Request

namespace Registry

theorem obtain_eq_obtainNamed (registry : Registry) {name : String}
    (h : ¬Namespace.IsRoot name) : registry.obtain name = registry.obtainNamed name := by
  cases hlookup : registry.lookup? name with
  | some id =>
      rw [obtain_eq_of_lookup? hlookup, obtainNamed_eq_of_find? (find?_of_lookup? hlookup h)]
  | none => exact obtain_of_lookup?_eq_none hlookup

theorem settings_perform_adjust (registry : Registry) (name : String) (adjustment : Adjustment)
    (id : LoggerId) :
    (registry.perform (.adjust name 0 adjustment)).settings id =
      if id = (registry.obtain name).id then adjustment.apply (registry.settings id)
      else registry.settings id := by
  have hholds := (registry.obtain name).holds
  simp only [perform, climb?]
  rw [settings_update, settings_obtain]
  simp only [hholds, and_true]

theorem lookup?_perform_adjust (registry : Registry) (name : String) (adjustment : Adjustment) :
    (registry.perform (.adjust name 0 adjustment)).lookup? name =
      some (registry.obtain name).id := by
  simp only [perform, climb?]
  rw [lookup?_update, lookup?_obtain_self]

/-- A registry has become another one by requests, each of which may still be under way. -/
structure Underway (requests : List Request) (earlier later : Registry) : Prop where
  wellFormed : later.WellFormed
  grows : earlier.Grows later
  sameButHandlers : ∀ id, (earlier.settings id).SameButHandlers (later.settings id)
  /-- No names but those asked for have been added, with the namespaces that enclose them. -/
  contains : ∀ name, later.contains name = true → earlier.contains name = true ∨
    ∃ request ∈ requests, ¬Namespace.IsRoot request.name ∧
      (name = request.name ∨ name ∈ Namespace.outers request.name)
  handlers_eq : ∀ id, earlier.handlers id ≠ [] → later.handlers id = earlier.handlers id
  attached : ∀ id, earlier.handlers id = [] → later.handlers id = [] ∨
    ∃ request ∈ requests, ∃ handler, request.handler? = some handler ∧
      later.lookup? request.name = some id ∧ later.handlers id = [handler]

theorem WellFormed.underway_refl {registry : Registry} (h : registry.WellFormed)
    (requests : List Request) : Underway requests registry registry :=
  ⟨h, registry.grows_refl, fun _ => ⟨rfl, rfl⟩, fun _ hname => .inl hname, fun _ _ => rfl,
    fun _ hnil => .inl hnil⟩

theorem Underway.trans {requests : List Request} {first second third : Registry}
    (h : Underway requests first second) (h' : Underway requests second third) :
    Underway requests first third := by
  refine ⟨h'.wellFormed, h.grows.trans h'.grows, ?_, ?_, ?_, ?_⟩
  · intro id
    exact ⟨(h'.sameButHandlers id).level_eq.trans (h.sameButHandlers id).level_eq,
      (h'.sameButHandlers id).propagate_eq.trans (h.sameButHandlers id).propagate_eq⟩
  · intro name hname
    rcases h'.contains name hname with hsecond | hasked
    · exact h.contains name hsecond
    · exact .inr hasked
  · intro id hne
    have hsecond := h.handlers_eq id hne
    rw [h'.handlers_eq id (by rwa [hsecond]), hsecond]
  · intro id hnil
    rcases h.attached id hnil with hsecond | ⟨request, hmem, handler, hoffered, hlookup, hsecond⟩
    · exact h'.attached id hsecond
    · refine .inr ⟨request, hmem, handler, hoffered, h'.grows.lookup?_eq hlookup, ?_⟩
      rw [h'.handlers_eq id (by rw [hsecond]; exact List.cons_ne_nil _ _), hsecond]

section

variable {registry : Registry} (h : registry.WellFormed) {requests : List Request}
  {request : Request} (hrequest : request ∈ requests)

include h hrequest

theorem WellFormed.underway_obtain :
    Underway requests registry (registry.obtain request.name).registry := by
  have hsettings := registry.settings_obtain request.name
  refine ⟨wellFormed_obtain h _, grows_obtain _ _, ?_, ?_, ?_, ?_⟩
  · intro id
    rw [hsettings]
    exact ⟨rfl, rfl⟩
  · intro name hname
    exact ((h.contains_obtain request.name name).mp hname).imp_right fun hasked =>
      ⟨request, hrequest, hasked⟩
  · intro id _
    rw [handlers, hsettings, handlers]
  · intro id hnil
    left
    rw [handlers, hsettings]
    exact hnil

theorem WellFormed.underway_serve : Underway requests registry (request.serve registry).1 := by
  have hsettings := registry.settings_perform_adjust request.name request.adjustment
  rw [request.serve_fst]
  refine ⟨wellFormed_perform h _, grows_perform _ _, ?_, ?_, ?_, ?_⟩
  · intro id
    rw [hsettings]
    split
    · exact request.sameButHandlers_adjustment _
    · exact ⟨rfl, rfl⟩
  · intro name hname
    refine ((h.contains_perform _ name).mp hname).imp_right ?_
    rintro ⟨asked, hasked, hname⟩
    simp only [Operation.requested?, Option.ite_none_left_eq_some, Option.some.injEq] at hasked
    obtain ⟨hroot, rfl⟩ := hasked
    exact ⟨request, hrequest, hroot, hname⟩
  · intro id hne
    rw [handlers, hsettings]
    split
    · rw [request.handlers_adjustment]
      exact if_neg hne
    · rfl
  · intro id hnil
    rw [handlers, hsettings]
    split
    · next hid =>
        have hsettled : (registry.settings id).handlers = [] := hnil
        rw [request.handlers_adjustment, if_pos hsettled]
        cases hoffered : request.handler? with
        | none => exact .inl rfl
        | some handler =>
            exact .inr ⟨request, hrequest, handler, hoffered,
              by rw [lookup?_perform_adjust, hid], rfl⟩
    · exact .inl hnil

end

/-- A request has what it asks for: the logger, and on it a handler if it asks for output. -/
def Settles (registry : Registry) (request : Request) (id : LoggerId) : Prop :=
  registry.lookup? request.name = some id ∧
    ((∃ handler, request.handler? = some handler) → registry.handlers id ≠ [])

theorem Underway.settles {requests : List Request} {earlier later : Registry}
    (h : Underway requests earlier later) {request : Request} {id : LoggerId}
    (hsettles : earlier.Settles request id) : later.Settles request id := by
  refine ⟨h.grows.lookup?_eq hsettles.1, ?_⟩
  intro hoffered
  rw [h.handlers_eq id (hsettles.2 hoffered)]
  exact hsettles.2 hoffered

theorem settles_serve (registry : Registry) (request : Request) :
    (request.serve registry).1.Settles request (registry.obtain request.name).id := by
  rw [request.serve_fst]
  refine ⟨lookup?_perform_adjust _ _ _, ?_⟩
  rintro ⟨handler, hoffered⟩
  rw [handlers, settings_perform_adjust, if_pos rfl, request.handlers_adjustment, hoffered]
  split
  · exact List.cons_ne_nil _ _
  · assumption

structure Served (requests : List Request) (start registry : Registry) : Prop where
  underway : Underway requests start registry
  settles : ∀ request ∈ requests, ∃ id, registry.Settles request id

section

variable {requests : List Request} {start registry : Registry}
  (h : Served requests start registry)

include h

theorem Served.contains_iff (name : String) :
    registry.contains name = true ↔ start.contains name = true ∨
      ∃ request ∈ requests, ¬Namespace.IsRoot request.name ∧
        (name = request.name ∨ name ∈ Namespace.outers request.name) := by
  constructor
  · exact h.underway.contains name
  · rintro (hname | ⟨request, hrequest, hroot, hname⟩)
    · obtain ⟨id, hid⟩ := contains_iff_exists_find?.mp hname
      exact contains_iff_exists_find?.mpr ⟨id, h.underway.grows.find?_eq hid⟩
    · obtain ⟨id, hid, -⟩ := h.settles request hrequest
      have hcontains := contains_iff_exists_find?.mpr ⟨id, find?_of_lookup? hid hroot⟩
      rcases hname with rfl | houter
      · exact hcontains
      · exact h.underway.wellFormed.contains_outers hcontains name houter

theorem Served.exists_handler {id : LoggerId} (hnil : start.handlers id = [])
    (hasked : ∃ request ∈ requests, ∃ handler, request.handler? = some handler ∧
      registry.lookup? request.name = some id) :
    ∃ request ∈ requests, ∃ handler, request.handler? = some handler ∧
      registry.lookup? request.name = some id ∧ registry.handlers id = [handler] := by
  obtain ⟨request, hrequest, handler, hoffered, hlookup⟩ := hasked
  obtain ⟨place, hplace, hhandlers⟩ := h.settles request hrequest
  obtain rfl := Option.some.inj (hplace.symm.trans hlookup)
  rcases h.underway.attached place hnil with hnone | hattached
  · exact absurd hnone (hhandlers ⟨handler, hoffered⟩)
  · exact hattached

theorem Served.sameButHandlers {name : String} {id : LoggerId}
    (hstart : start.WellFormed) (hid : registry.lookup? name = some id) :
    (match start.lookup? name with
      | none => {}
      | some place => start.settings place : Settings).SameButHandlers (registry.settings id) := by
  have hsame := h.underway.sameButHandlers id
  cases hlookup : start.lookup? name with
  | some place =>
      obtain rfl := Option.some.inj ((h.underway.grows.lookup?_eq hlookup).symm.trans hid)
      exact hsame
  | none =>
      have hfind := find?_of_lookup? hid (not_isRoot_of_lookup?_eq_none hlookup)
      have hnot : ¬start.Holds id := by
        intro hholds
        have hname := (h.underway.grows.name_eq hholds).symm.trans (name_of_find? hfind)
        have hfound := hstart.find?_name hholds (ne_rootId_of_find? hfind)
        rw [hname] at hfound
        rw [lookup?, if_neg (not_isRoot_of_lookup?_eq_none hlookup), hfound] at hlookup
        cases hlookup
      rw [settings_of_not_holds hnot] at hsame
      exact hsame

end

/-- Two registries have the same names below the same parents, with the same level and switch on
each. Handlers, and the places of loggers, may differ. -/
structure SameTree (registry other : Registry) : Prop where
  names_eq : other.names = registry.names
  directlyBelow_iff : ∀ name outer,
    other.DirectlyBelow name outer ↔ registry.DirectlyBelow name outer
  settings : ∀ name id place, registry.lookup? name = some id → other.lookup? name = some place →
    other.level place = registry.level id ∧ other.propagate place = registry.propagate id

theorem Served.sameTree {requests others : List Request} {start registry other : Registry}
    (h : Served requests start registry) (h' : Served others start other)
    (hstart : start.WellFormed) (hsame : ∀ request, request ∈ others ↔ request ∈ requests) :
    registry.SameTree other := by
  have hcontains : ∀ name, other.contains name = true ↔ registry.contains name = true := by
    intro name
    simp only [h.contains_iff, h'.contains_iff, hsame]
  have hnames := names_eq_of_contains_iff hcontains
  refine ⟨hnames, ?_, ?_⟩
  · intro name outer
    rw [h.underway.wellFormed.directlyBelow_iff, h'.underway.wellFormed.directlyBelow_iff,
      hcontains]
  · intro name id place hid hplace
    have hfirst := h.sameButHandlers hstart hid
    have hsecond := h'.sameButHandlers hstart hplace
    exact ⟨hsecond.level_eq.trans hfirst.level_eq.symm,
      hsecond.propagate_eq.trans hfirst.propagate_eq.symm⟩

theorem WellFormed.served_foldl {start : Registry} (h : start.WellFormed)
    (requests : List Request) :
    Served requests start
      (requests.foldl (fun registry request => (request.serve registry).1) start) := by
  suffices hfrom : ∀ (pending : List Request) (registry : Registry),
      (∀ request ∈ pending, request ∈ requests) → registry.WellFormed →
      Underway requests registry
          (pending.foldl (fun registry request => (request.serve registry).1) registry) ∧
        ∀ request ∈ pending, ∃ id,
          (pending.foldl (fun registry request => (request.serve registry).1) registry).Settles
            request id by
    obtain ⟨hunderway, hsettles⟩ := hfrom requests start (fun _ hrequest => hrequest) h
    exact ⟨hunderway, hsettles⟩
  intro pending
  induction pending with
  | nil =>
      intro registry _ hwf
      exact ⟨hwf.underway_refl requests, nofun⟩
  | cons request rest ih =>
      intro registry hmem hwf
      obtain ⟨hrequest, hrest⟩ := List.forall_mem_cons.mp hmem
      have hserve := hwf.underway_serve hrequest
      obtain ⟨hunderway, hsettles⟩ := ih _ hrest hserve.wellFormed
      exact ⟨hserve.trans hunderway,
        List.forall_mem_cons.mpr ⟨⟨_, hunderway.settles (registry.settles_serve request)⟩,
          hsettles⟩⟩

end Registry

/-- How far a request has come is true of the registry. -/
def Progress.Fits (request : Request) (registry : Registry) : Progress → Prop
  | begun => True
  | missed => ¬Namespace.IsRoot request.name
  | offering id echo handler =>
      request = .build request.name echo handler ∧ echo.isEnabled = true ∧
        registry.lookup? request.name = some id
  | finished outlet => ∃ id, outlet = request.outletOn id ∧ registry.Settles request id

theorem Registry.Underway.fits {requests : List Request} {earlier later : Registry}
    (h : Registry.Underway requests earlier later) {request : Request} {progress : Progress}
    (hfits : progress.Fits request earlier) : progress.Fits request later := by
  cases progress with
  | begun => trivial
  | missed => exact hfits
  | offering id echo handler =>
      obtain ⟨hrequest, henabled, hlookup⟩ := hfits
      exact ⟨hrequest, henabled, h.grows.lookup?_eq hlookup⟩
  | finished outlet =>
      obtain ⟨id, houtlet, hsettles⟩ := hfits
      exact ⟨id, houtlet, h.settles hsettles⟩

namespace Request

theorem fits_proceed {request : Request} {registry : Registry} {id : LoggerId}
    (h : registry.lookup? request.name = some id) :
    (request.proceed id).Fits request registry := by
  cases request with
  | logger name => exact ⟨id, rfl, h, by rintro ⟨handler, ⟨⟩⟩⟩
  | build name echo handler =>
      cases echo with
      | unset => exact ⟨id, rfl, h, by rintro ⟨handler, ⟨⟩⟩⟩
      | off => exact ⟨id, rfl, h, by rintro ⟨handler, ⟨⟩⟩⟩
      | on => exact ⟨rfl, rfl, h⟩
      | debug => exact ⟨rfl, rfl, h⟩

/-- Under each lock a request does no more than it asks for, and knows where it stands. -/
theorem underway_advance {registry : Registry} (hwf : registry.WellFormed)
    {requests : List Request} {request : Request} (hrequest : request ∈ requests)
    {progress : Progress} (hfits : progress.Fits request registry) :
    let after := request.advance registry progress
    registry.Underway requests after.1 ∧ after.2.Fits request after.1 := by
  cases progress with
  | begun =>
      simp only [advance]
      cases hlookup : registry.lookup? request.name with
      | none =>
          exact ⟨hwf.underway_refl requests, Registry.not_isRoot_of_lookup?_eq_none hlookup⟩
      | some id => exact ⟨hwf.underway_refl requests, fits_proceed hlookup⟩
  | missed =>
      simp only [advance, ← registry.obtain_eq_obtainNamed hfits]
      exact ⟨hwf.underway_obtain hrequest,
        fits_proceed (registry.lookup?_obtain_self request.name)⟩
  | offering id echo handler =>
      obtain ⟨hbuild, henabled, hlookup⟩ := hfits
      have hobtain := Registry.obtain_eq_of_lookup? hlookup
      -- From here on the request does what is left of it when it is carried out at one go.
      have hserve : request.serve registry =
          ((registry.attachIfEmpty id fun _ => some handler).1,
            .adapted { echo, logger := id }) := by
        rw [hbuild, serve, Registry.buildWith, hobtain]
        cases echo with
        | unset => cases henabled
        | off => cases henabled
        | on => rfl
        | debug => rfl
      have hsettles := registry.settles_serve request
      have hunderway := hwf.underway_serve hrequest
      rw [hserve] at hsettles hunderway
      refine ⟨hunderway, (registry.obtain request.name).id, ?_, hsettles⟩
      rw [← request.serve_snd, hserve]
  | finished outlet => exact ⟨hwf.underway_refl requests, hfits⟩

end Request

/-- Left alone, a request takes its three steps at most and comes to what it is when it is carried
out at one go. -/
theorem Request.advance_thrice (request : Request) (registry : Registry) :
    let first := request.advance registry .begun
    let second := request.advance first.1 first.2
    request.advance second.1 second.2 =
      ((request.serve registry).1, .finished (request.serve registry).2) := by
  cases request with
  | logger name =>
      cases hlookup : registry.lookup? name with
      | none =>
          simp only [advance, proceed, serve, Request.name, hlookup,
            Registry.obtain_of_lookup?_eq_none hlookup]
      | some id =>
          simp only [advance, proceed, serve, Request.name, hlookup,
            Registry.obtain_eq_of_lookup? hlookup]
  | build name echo handler =>
      cases hlookup : registry.lookup? name with
      | none =>
          have hobtain := Registry.obtain_of_lookup?_eq_none hlookup
          cases echo <;> simp only [advance, proceed, serve, Registry.buildWith, Echo.level?,
            Request.name, hlookup, hobtain]
      | some id =>
          have hobtain := Registry.obtain_eq_of_lookup? hlookup
          cases echo <;> simp only [advance, proceed, serve, Registry.buildWith, Echo.level?,
            Request.name, hlookup, hobtain]

/-- How many locks a request has yet to take at most. -/
def Progress.remaining : Progress → Nat
  | begun => 3
  | missed => 2
  | offering _ _ _ => 1
  | finished _ => 0

theorem Progress.remaining_eq_zero_iff {progress : Progress} :
    progress.remaining = 0 ↔ ∃ outlet, progress = .finished outlet := by
  cases progress <;> simp [remaining]

theorem Progress.remaining_le (progress : Progress) : progress.remaining ≤ 3 := by
  cases progress <;> simp [remaining]

theorem Request.remaining_proceed_le (request : Request) (id : LoggerId) :
    (request.proceed id).remaining ≤ 1 := by
  cases request with
  | logger name => exact Nat.zero_le 1
  | build name echo handler =>
      cases echo with
      | unset => exact Nat.zero_le 1
      | off => exact Nat.zero_le 1
      | on => exact Nat.le_refl 1
      | debug => exact Nat.le_refl 1

theorem Request.remaining_advance_le (request : Request) (registry : Registry)
    (progress : Progress) :
    (request.advance registry progress).2.remaining ≤ progress.remaining - 1 := by
  have hproceed := request.remaining_proceed_le
  cases progress with
  | begun =>
      rw [advance]
      split
      · exact Nat.le_refl 2
      · next id _ => exact Nat.le_succ_of_le (hproceed id)
  | missed => exact hproceed _
  | offering id echo handler => exact Nat.le_refl 0
  | finished outlet => exact Nat.le_refl 0

namespace Traffic

theorem run_cons (traffic : Traffic) (index : Nat) (rest : List Nat) :
    traffic.run (index :: rest) = (traffic.turn index).run rest :=
  rfl

theorem turn_of_getElem? {traffic : Traffic} {index : Nat} {request : Request}
    {progress : Progress} (h : traffic.threads[index]? = some (request, progress)) :
    let after := request.advance traffic.registry progress
    traffic.turn index =
      { registry := after.1, threads := traffic.threads.set index (request, after.2) } := by
  rw [turn, h]

theorem length_threads_turn (traffic : Traffic) (index : Nat) :
    (traffic.turn index).threads.length = traffic.threads.length := by
  rw [turn]
  split
  · rfl
  · exact List.length_set

theorem length_threads_run (traffic : Traffic) (turns : List Nat) :
    (traffic.run turns).threads.length = traffic.threads.length := by
  induction turns generalizing traffic with
  | nil => rfl
  | cons index rest ih => exact (ih (traffic.turn index)).trans (traffic.length_threads_turn index)

/-- What is true of the traffic after any turns. -/
structure Runs (requests : List Request) (start : Registry) (traffic : Traffic) : Prop where
  requests_eq : traffic.threads.map Prod.fst = requests
  underway : start.Underway requests traffic.registry
  fits : ∀ thread ∈ traffic.threads, thread.2.Fits thread.1 traffic.registry

theorem runs_start {registry : Registry} (h : registry.WellFormed) (requests : List Request) :
    (start registry requests).Runs requests registry := by
  refine ⟨?_, h.underway_refl requests, ?_⟩
  · rw [start, List.map_map]
    exact List.map_id requests
  · intro thread hthread
    obtain ⟨request, -, rfl⟩ := List.mem_map.mp hthread
    trivial

theorem Runs.turn {requests : List Request} {start : Registry} {traffic : Traffic}
    (h : traffic.Runs requests start) (index : Nat) : (traffic.turn index).Runs requests start := by
  cases hthread : traffic.threads[index]? with
  | none =>
      rw [Traffic.turn, hthread]
      exact h
  | some thread =>
      obtain ⟨request, progress⟩ := thread
      have hmem := List.mem_of_getElem? hthread
      have hrequest : request ∈ requests := by
        rw [← h.requests_eq]
        exact List.mem_map_of_mem hmem
      obtain ⟨hunderway, hfits⟩ :=
        Request.underway_advance h.underway.wellFormed hrequest (h.fits _ hmem)
      rw [turn_of_getElem? hthread]
      refine ⟨?_, h.underway.trans hunderway, ?_⟩
      · have hfst : (traffic.threads.map Prod.fst)[index]? = some request := by
          rw [List.getElem?_map, hthread]
          rfl
        obtain ⟨hlt, hget⟩ := List.getElem?_eq_some_iff.mp hfst
        rw [List.map_set, ← h.requests_eq, ← hget]
        exact List.set_getElem_self hlt
      · intro other hother
        rcases List.mem_or_eq_of_mem_set hother with hheld | rfl
        · exact hunderway.fits (h.fits other hheld)
        · exact hfits

theorem Runs.run {requests : List Request} {start : Registry} {traffic : Traffic}
    (h : traffic.Runs requests start) (turns : List Nat) :
    (traffic.run turns).Runs requests start := by
  induction turns generalizing traffic with
  | nil => exact h
  | cons index rest ih => exact ih (h.turn index)

theorem Runs.served {requests : List Request} {start : Registry} {traffic : Traffic}
    (h : traffic.Runs requests start) (hfinished : traffic.Finished) :
    Registry.Served requests start traffic.registry := by
  refine ⟨h.underway, ?_⟩
  intro request hrequest
  rw [← h.requests_eq] at hrequest
  obtain ⟨thread, hthread, rfl⟩ := List.mem_map.mp hrequest
  obtain ⟨outlet, houtlet⟩ := hfinished thread hthread
  have hfits := h.fits thread hthread
  rw [houtlet] at hfits
  obtain ⟨id, -, hsettles⟩ := hfits
  exact ⟨id, hsettles⟩

def remaining (traffic : Traffic) (index : Nat) : Nat :=
  (traffic.threads[index]?.map fun thread => thread.2.remaining).getD 0

theorem remaining_le (traffic : Traffic) (index : Nat) : traffic.remaining index ≤ 3 := by
  rw [remaining]
  cases traffic.threads[index]? with
  | none => exact Nat.zero_le 3
  | some thread => exact thread.2.remaining_le

theorem remaining_turn_le (traffic : Traffic) (index other : Nat) :
    (traffic.turn index).remaining other ≤
      traffic.remaining other - if other = index then 1 else 0 := by
  cases hthread : traffic.threads[index]? with
  | none =>
      have hturn : traffic.turn index = traffic := by
        rw [turn, hthread]
      rw [hturn]
      by_cases heq : other = index
      · have hzero : traffic.remaining other = 0 := by
          rw [remaining, heq, hthread]
          rfl
        rw [hzero]
        exact Nat.zero_le _
      · rw [if_neg heq]
        exact Nat.le_refl _
  | some thread =>
      obtain ⟨request, progress⟩ := thread
      obtain ⟨hlt, -⟩ := List.getElem?_eq_some_iff.mp hthread
      rw [turn_of_getElem? hthread, remaining, remaining, List.getElem?_set]
      rcases Decidable.em (other = index) with rfl | hne
      · rw [if_pos rfl, if_pos hlt, if_pos rfl, hthread]
        exact request.remaining_advance_le traffic.registry progress
      · rw [if_neg (Ne.symm hne), if_neg hne]
        exact Nat.le_refl _

theorem remaining_run_le (traffic : Traffic) (turns : List Nat) (index : Nat) :
    (traffic.run turns).remaining index ≤ traffic.remaining index - turns.count index := by
  induction turns generalizing traffic with
  | nil => exact Nat.le_refl _
  | cons turn rest ih =>
      have hturn := traffic.remaining_turn_le turn index
      have hrest := ih (traffic.turn turn)
      rw [run_cons, List.count_cons]
      by_cases heq : turn = index
      · simp [heq] at hturn hrest ⊢
        omega
      · simp [heq, Ne.symm heq] at hturn hrest ⊢
        omega

theorem finished_run {registry : Registry} {requests : List Request} {turns : List Nat}
    (h : ∀ index < requests.length, 3 ≤ turns.count index) :
    ((start registry requests).run turns).Finished := by
  intro thread hthread
  obtain ⟨index, hindex⟩ := List.getElem?_of_mem hthread
  have hlength : (start registry requests).threads.length = requests.length :=
    List.length_map _
  have hlt : index < requests.length := by
    rw [← hlength, ← length_threads_run _ turns]
    exact (List.getElem?_eq_some_iff.mp hindex).1
  have hle := remaining_run_le (start registry requests) turns index
  have hthree := (start registry requests).remaining_le index
  have hzero : ((start registry requests).run turns).remaining index = 0 := by
    have := h index hlt
    omega
  rw [remaining, hindex] at hzero
  exact Progress.remaining_eq_zero_iff.mp hzero

/-- Whatever turns the threads of some requests have had, once all of them are through, requests for
one name have one logger; the names, the parents, the levels and the switches are those of the same
requests served one after another in any order; and a logger has kept its handlers, or has one now
if a request for it asked for output. Three turns for each thread are enough. -/
theorem concurrent_requests_agree (moment : Moment) (commands : List Command) (key : String)
    (requests order : List Request) (horder : order.Perm requests) (turns : List Nat) :
    let before := (Session.run { moment } commands).1.registry key
    let traffic := (start before requests).run turns
    let alone := order.foldl (fun registry request => (request.serve registry).1) before
    ((∀ index < requests.length, 3 ≤ turns.count index) → traffic.Finished) ∧
      (traffic.Finished →
        traffic.threads.map Prod.fst = requests ∧
        (∀ request outlet, (request, .finished outlet) ∈ traffic.threads →
          ∃ id, traffic.registry.lookup? request.name = some id ∧
            outlet = request.outletOn id) ∧
        traffic.registry.SameTree alone ∧
        ∀ id,
          (before.handlers id ≠ [] → traffic.registry.handlers id = before.handlers id) ∧
          (before.handlers id = [] →
            ((∃ request ∈ requests, ∃ handler, request.handler? = some handler ∧
                traffic.registry.lookup? request.name = some id) →
              ∃ request ∈ requests, ∃ handler, request.handler? = some handler ∧
                traffic.registry.lookup? request.name = some id ∧
                traffic.registry.handlers id = [handler]) ∧
            ((¬∃ request ∈ requests, ∃ handler, request.handler? = some handler ∧
                traffic.registry.lookup? request.name = some id) →
              traffic.registry.handlers id = []))) := by
  intro before traffic alone
  have hwf : before.WellFormed := Session.wellFormed_registry_run moment commands key
  refine ⟨finished_run, fun hfinished => ?_⟩
  have hruns : traffic.Runs requests before := (runs_start hwf requests).run turns
  have hserved := hruns.served hfinished
  refine ⟨hruns.requests_eq, ?_, ?_, ?_⟩
  · intro request outlet hthread
    obtain ⟨id, houtlet, hlookup, -⟩ := hruns.fits _ hthread
    exact ⟨id, hlookup, houtlet⟩
  · exact hserved.sameTree (hwf.served_foldl order) hwf fun request => horder.mem_iff
  · intro id
    refine ⟨hserved.underway.handlers_eq id, fun hnil => ⟨hserved.exists_handler hnil, ?_⟩⟩
    intro hnone
    rcases hserved.underway.attached id hnil with
      hempty | ⟨request, hrequest, handler, hoffered, hlookup, -⟩
    · exact hempty
    · exact absurd ⟨request, hrequest, handler, hoffered, hlookup⟩ hnone

/-- Two threads look a name up before either has created its logger. The handler of the thread that
comes first to the logger stays the only one. -/
theorem two_threads_attach_one_handler :
    let moment : Moment := { instant := { seconds := 0 } }
    let first : Handler := { id := .named "first", destination := .journal "first" }
    let second : Handler := { id := .named "second", destination := .journal "second" }
    let requests : List Request := [.build "app" .on first, .build "app" .debug second]
    let before := (Session.run { moment } []).1.registry "main"
    let traffic := (start before requests).run [0, 1, 1, 1, 0, 0]
    requests.reverse.Perm requests ∧
      traffic.Finished ∧
      traffic.registry.handlers 1 = [second] ∧
      traffic.registry.SameTree
        (requests.reverse.foldl (fun registry request => (request.serve registry).1) before) := by
  have hhandlers : ((start
      ((Session.run { moment := { instant := { seconds := 0 } } } []).1.registry "main")
      [.build "app" .on { id := .named "first", destination := .journal "first" },
        .build "app" .debug { id := .named "second", destination := .journal "second" }]).run
          [0, 1, 1, 1, 0, 0]).registry.handlers 1 =
      [{ id := .named "second", destination := .journal "second" }] := by
    cbv
  intro moment first second requests before traffic
  have horder : requests.reverse.Perm requests := List.reverse_perm requests
  have hturns : ∀ index < requests.length, 3 ≤ [0, 1, 1, 1, 0, 0].count index := by
    decide
  have hagree := concurrent_requests_agree moment [] "main" requests requests.reverse horder
    [0, 1, 1, 1, 0, 0]
  exact ⟨horder, hagree.1 hturns, hhandlers, (hagree.2 (hagree.1 hturns)).2.2.1⟩

end Traffic

end LogTree
