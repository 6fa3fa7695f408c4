import LogTree.Proofs.SessionOperations

namespace LogTree

/-- No handler is attached twice. -/
def Settings.Distinct (settings : Settings) : Prop :=
  (settings.handlers.map Handler.id).Nodup

theorem Settings.distinct_attach {settings : Settings} (h : settings.Distinct)
    (handler : Handler) : (settings.attach handler).Distinct := by
  rw [attach]
  split
  · exact h
  · next hfresh =>
      rw [Distinct, List.map_append, List.map_singleton, List.nodup_append]
      refine ⟨h, List.pairwise_singleton _ _, ?_⟩
      intro held hheld other hother
      rw [List.mem_singleton] at hother
      rintro rfl
      obtain ⟨attached, hattached, heq⟩ := List.mem_map.mp hheld
      apply hfresh
      exact List.any_eq_true.mpr ⟨attached, hattached, decide_eq_true (heq.trans hother)⟩

theorem Settings.distinct_detach {settings : Settings} (h : settings.Distinct)
    (handler : HandlerId) : (settings.detach handler).Distinct :=
  List.Pairwise.sublist (List.Sublist.map Handler.id List.filter_sublist) h

theorem Adjustment.distinct_apply {settings : Settings} (h : settings.Distinct)
    (adjustment : Adjustment) : (adjustment.apply settings).Distinct := by
  cases adjustment with
  | keep => exact h
  | setLevel level => exact h
  | setDefaultLevel =>
      rw [apply]
      split
      · exact h
      · exact h
  | setPropagate propagate => exact h
  | attach handler => exact Settings.distinct_attach h handler
  | detach handler => exact Settings.distinct_detach h handler
  | offer handler =>
      cases handler with
      | none => exact h
      | some handler =>
          rw [apply]
          split
          · exact List.pairwise_singleton _ _
          · exact h

namespace Registry

def AttachesOnce (registry : Registry) : Prop :=
  ∀ id, (registry.settings id).Distinct

theorem attachesOnce_fresh : AttachesOnce {} := by
  intro id
  cases id with
  | zero => exact List.nodup_nil
  | succ k => exact List.nodup_nil

theorem AttachesOnce.performAll {registry : Registry} (h : registry.AttachesOnce)
    (operations : List Operation) : (registry.performAll operations).AttachesOnce := by
  intro id
  refine settings_performAll_induction (motive := Settings.Distinct) ?_ (h id)
  intro name generations adjustment _ settings hsettings
  exact adjustment.distinct_apply hsettings

end Registry

theorem Session.attachesOnce_registry_run (moment : Moment) (commands : List Command)
    (key : String) : ((run { moment } commands).1.registry key).AttachesOnce := by
  rw [registry_run, registry_fresh]
  exact Registry.attachesOnce_fresh.performAll _

end LogTree
