import Mathlib.Data.List.Pairwise
import LogTree.Proofs.HandlerLists
import LogTree.Proofs.StandardHandlers
import LogTree.Session.Adoption

namespace LogTree

theorem HandlerId.adopt_ne_standard (key : String) (id : HandlerId) : id.adopt key ≠ .standard := by
  cases id <;> exact fun h => by cases h

theorem HandlerId.adopt_inj {key : String} {id other : HandlerId} (hid : id ≠ .named key)
    (hother : other ≠ .named key) (h : id.adopt key = other.adopt key) : id = other := by
  cases id with
  | standard =>
      cases other with
      | standard => rfl
      | named place => exact absurd h.symm hother
  | named place =>
      cases other with
      | standard => exact absurd h hid
      | named otherPlace => exact h

theorem Handler.adopt_of_named {handler : Handler} {place : String}
    (h : handler.id = .named place) (key : String) : handler.adopt key = handler := by
  obtain ⟨id, threshold, destination⟩ := handler
  obtain rfl : id = .named place := h
  rfl

theorem Handler.IsMade.insert {handlers : NameMap Handler} {handler : Handler}
    (h : handler.IsMade handlers) {key : String} (hfresh : handlers.get? key = none)
    (other : Handler) : handler.IsMade (handlers.insert key other) := by
  refine h.mono ?_
  intro taken made hmade
  rw [NameMap.get?_insert, if_neg, hmade]
  rintro rfl
  rw [hfresh] at hmade
  cases hmade

theorem Settings.hasHandler_standard_iff {settings : Settings} :
    settings.hasHandler .standard = true ↔ .standard ∈ settings.handlers.map Handler.id := by
  simp only [hasHandler, List.any_eq_true, decide_eq_true_eq, List.mem_map]

/-- A key that no handler bears tells the standard handler apart from the others. -/
theorem Settings.distinct_adopt {settings : Settings} (h : settings.Distinct) {key : String}
    (hfresh : ∀ handler ∈ settings.handlers, handler.id ≠ .named key) :
    (settings.adopt key).Distinct := by
  have hids : (settings.adopt key).handlers.map Handler.id =
      (settings.handlers.map Handler.id).map (HandlerId.adopt key) := by
    rw [adopt, List.map_map, List.map_map]
    rfl
  rw [Distinct, hids]
  refine List.Nodup.map_on ?_ h
  intro id hid other hother heq
  obtain ⟨handler, hhandler, rfl⟩ := List.mem_map.mp hid
  obtain ⟨another, hanother, rfl⟩ := List.mem_map.mp hother
  exact HandlerId.adopt_inj (hfresh handler hhandler) (hfresh another hanother) heq

theorem Settings.standardFirst_adopt (key : String) (settings : Settings) :
    (settings.adopt key).StandardFirst := by
  refine List.pairwise_of_forall_mem_list ?_
  intro _ _ later hlater
  obtain ⟨handler, -, rfl⟩ := List.mem_map.mp hlater
  exact handler.id.adopt_ne_standard key

namespace Session

/-- The standard handler of a logger stays where it is, under a key that no handler had. -/
structure Adopts (session next : Session) (address : Address) (id : LoggerId) (key : String) :
    Prop where
  fresh : session.handlers.get? key = none
  stands : .standard ∈ ((session.registry address.registry).handlers id).map Handler.id
  handlers_eq : next.handlers = session.handlers.insert key (Handler.standard.adopt key)
  sets : session.SetsHandlers next address.registry id
    (((session.registry address.registry).handlers id).map (Handler.adopt key))

theorem canAdopt_iff {session : Session} {registryKey : String} {id : LoggerId} {key : String} :
    session.canAdopt registryKey id key = true ↔ session.handlers.get? key = none ∧
      .standard ∈ ((session.registry registryKey).handlers id).map Handler.id := by
  rw [canAdopt, Bool.and_eq_true, Settings.hasHandler_standard_iff, Registry.handlers]
  simp only [NameMap.contains, Bool.not_eq_true', Option.isSome_eq_false_iff,
    Option.isNone_iff_eq_none]

section

variable {session located : Session} {address : Address} {id : LoggerId}
  (h : session.locate address = (located, some id)) {key : String}

include h

theorem canAdopt_locate :
    located.canAdopt address.registry id key = session.canAdopt address.registry id key := by
  rw [canAdopt, canAdopt, handlers_of_locate h, settings_locate h]

theorem adopts_of_locate (hcan : session.canAdopt address.registry id key = true) :
    (session.adopt address key).2 = .ok .done ∧
      session.Adopts (session.adopt address key).1 address id key := by
  obtain ⟨hfresh, hstands⟩ := canAdopt_iff.mp hcan
  rw [← canAdopt_locate h] at hcan
  simp only [adopt, h, if_pos hcan, handlers_of_locate h]
  refine ⟨rfl, hfresh, hstands, rfl, ?_⟩
  have hsets : session.SetsHandlers _ address.registry id
      (Settings.adopt key ((session.registry address.registry).settings id)).handlers :=
    setsHandlers_of_update h fun other => registry_setRegistry _ _ _ _
  exact hsets

theorem adopt_refused_of_locate (hcannot : session.canAdopt address.registry id key = false) :
    session.adopt address key = (located, .error .unknown) := by
  rw [← canAdopt_locate h] at hcannot
  simp only [adopt, h, hcannot, Bool.false_eq_true, if_false, refuse]

end

/-- An adoption is done as such, or refused and without effect on handlers. -/
theorem adopt_cases (session : Session) (address : Address) (key : String) :
    (∃ id, session.Adopts (session.adopt address key).1 address id key) ∨
      (session.adopt address key).1.handlers = session.handlers ∧
        session.KeepsHandlers (session.adopt address key).1 := by
  rcases hlocate : session.locate address with ⟨located, _ | id⟩
  · simp only [adopt, hlocate, refuse]
    exact .inr ⟨handlers_of_locate hlocate, keepsHandlers_of_locate hlocate⟩
  · rcases hcan : session.canAdopt address.registry id key with _ | _
    · rw [adopt_refused_of_locate hlocate hcan]
      exact .inr ⟨handlers_of_locate hlocate, keepsHandlers_of_locate hlocate⟩
    · exact .inl ⟨id, (adopts_of_locate hlocate hcan).2⟩

theorem ListsHandlers.of_keepsHandlers {session next : Session} (h : session.ListsHandlers)
    (hhandlers : next.handlers = session.handlers) (hkept : session.KeepsHandlers next) :
    next.ListsHandlers where
  once := by
    intro key id
    change (((next.registry key).handlers id).map Handler.id).Nodup
    rw [hkept]
    exact h.once key id
  made := by
    intro key id handler hmem
    rw [hkept] at hmem
    rw [hhandlers]
    exact h.made key id handler hmem
  names := by
    intro key handler hhandler
    rw [hhandlers] at hhandler
    exact h.names key handler hhandler

theorem ListsHandlers.of_adopts {session next : Session} (h : session.ListsHandlers)
    {address : Address} {id : LoggerId} {key : String}
    (hadopts : session.Adopts next address id key) : next.ListsHandlers where
  once := by
    intro other place
    change (((next.registry other).handlers place).map Handler.id).Nodup
    rw [hadopts.sets]
    split
    · refine Settings.distinct_adopt (h.once address.registry id) ?_
      intro handler hhandler hid
      rcases h.made address.registry id handler hhandler with rfl | ⟨taken, htaken, hmade⟩
      · cases hid
      · rw [HandlerId.named.inj (htaken.symm.trans hid), hadopts.fresh] at hmade
        cases hmade
    · exact h.once other place
  made := by
    intro other place handler hmem
    rw [hadopts.sets] at hmem
    rw [hadopts.handlers_eq]
    split at hmem
    · obtain ⟨held, hheld, rfl⟩ := List.mem_map.mp hmem
      rcases h.made address.registry id held hheld with rfl | ⟨taken, hid, hmade⟩
      · exact .inr ⟨key, rfl, (NameMap.get?_insert _ _ _ _).trans (if_pos rfl)⟩
      · rw [Handler.adopt_of_named hid]
        exact .insert (.inr ⟨taken, hid, hmade⟩) hadopts.fresh _
    · exact (h.made other place handler hmem).insert hadopts.fresh _
  names := by
    intro place handler hhandler
    rw [hadopts.handlers_eq, NameMap.get?_insert] at hhandler
    split at hhandler
    · next heq =>
        obtain rfl := Option.some.inj hhandler
        rw [heq]
        rfl
    · exact h.names place handler hhandler

theorem ListsHandlers.act {session : Session} (h : session.ListsHandlers) (act : Act) :
    (session.act act).1.ListsHandlers := by
  cases act with
  | command command => exact h.step command
  | adopt address key =>
      rcases session.adopt_cases address key with ⟨id, hadopts⟩ | ⟨hhandlers, hkept⟩
      · exact h.of_adopts hadopts
      · exact h.of_keepsHandlers hhandlers hkept

theorem StandardFirst.act {session : Session} (h : session.StandardFirst)
    (hlists : session.ListsHandlers) (act : Act) : (session.act act).1.StandardFirst := by
  cases act with
  | command command => exact h.step hlists.names command
  | adopt address key =>
      intro other place
      rw [Settings.StandardFirst]
      change (((session.adopt address key).1.registry other).handlers place).Pairwise _
      rcases session.adopt_cases address key with ⟨id, hadopts⟩ | ⟨-, hkept⟩
      · rw [hadopts.sets]
        split
        · exact Settings.standardFirst_adopt key _
        · exact h other place
      · rw [hkept]
        exact h other place

theorem listsHandlers_play (moment : Moment) (acts : List Act) :
    (play { moment } acts).1.ListsHandlers ∧ (play { moment } acts).1.StandardFirst := by
  suffices hplay : ∀ session : Session, session.ListsHandlers → session.StandardFirst →
      (session.play acts).1.ListsHandlers ∧ (session.play acts).1.StandardFirst from
    hplay _ (listsHandlers_fresh moment) fun _ => Registry.standardFirst_fresh
  induction acts with
  | nil => exact fun _ hlists hfirst => ⟨hlists, hfirst⟩
  | cons act rest ih =>
      exact fun session hlists hfirst => ih _ (hlists.act act) (hfirst.act hlists act)

/-- Standard handlers that a program takes from their loggers are told apart from all others, and
commands attach, offer and detach them as they do with the handlers that the program has made.
Taking one leaves it in its place. -/
theorem adopted_handlers_are_listed_like_others (moment : Moment) (acts : List Act) :
    let session := (play { moment } acts).1
    (∀ key id, (((session.registry key).handlers id).map Handler.id).Nodup ∧
      ((session.registry key).settings id).StandardFirst) ∧
      session.OrdersHandlers ∧
      ∀ address located id key, session.locate address = (located, some id) →
        let outcome := session.adopt address key
        if session.canAdopt address.registry id key then
          outcome.2 = .ok .done ∧ session.Adopts outcome.1 address id key
        else outcome.2 = .error .unknown ∧ session.KeepsHandlers outcome.1 := by
  intro session
  obtain ⟨hlists, hfirst⟩ := listsHandlers_play moment acts
  refine ⟨fun key id => ⟨hlists.once key id, hfirst key id⟩, hlists.orders, ?_⟩
  intro address located id key hlocate outcome
  split
  · next hcan => exact adopts_of_locate hlocate hcan
  · next hcannot =>
      have hrefused : outcome = (located, .error .unknown) :=
        adopt_refused_of_locate hlocate (Bool.eq_false_iff.mpr hcannot)
      rw [hrefused]
      exact ⟨rfl, keepsHandlers_of_locate hlocate⟩

example :
    let engine : LoggedClass := { typeName := "Engine", declaredNamespace := some "first" }
    let wheel : LoggedClass := { typeName := "Wheel", declaredNamespace := some "second" }
    let session := (play { moment := { instant := { seconds := 0 } } } [
      .command (.object "engine" (.make "main" engine none none .on)),
      .adopt { registry := "main", name := "first" } "taken",
      .command (.object "wheel" (.make "main" wheel none none .debug)),
      .command (.logger { registry := "main", name := "second" } (.attach "taken"))]).1
    (session.registry "main").handlerIds 2 = [.standard, .named "taken"] := by
  cbv

end Session

end LogTree
