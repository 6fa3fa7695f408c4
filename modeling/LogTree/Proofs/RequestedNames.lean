import Mathlib
import LogTree.Proofs.ParentWalks
import LogTree.Text.Utf8.Order

namespace LogTree

namespace Registry

theorem contains_iff_exists_find? {registry : Registry} {name : String} :
    registry.contains name = true ↔ ∃ id, registry.find? name = some id :=
  Option.isSome_iff_exists

@[simp] theorem contains_update (registry : Registry) (id : LoggerId)
    (change : Settings → Settings) (name : String) :
    (registry.update id change).contains name = registry.contains name := by
  rw [contains, contains, find?_update]

theorem contains_append (outer : Located) (name other : String) :
    (append outer name).registry.contains other = true ↔
      outer.registry.contains other = true ∨ other = name := by
  rw [contains, contains, find?_append]
  cases outer.registry.find? other with
  | some id => simp
  | none => by_cases h : other = name <;> simp [h]

theorem WellFormed.contains_outers {registry : Registry} (h : registry.WellFormed)
    {name : String} (hname : registry.contains name = true) :
    ∀ outer ∈ Namespace.outers name, registry.contains outer = true := by
  obtain ⟨id, hid⟩ := contains_iff_exists_find?.mp hname
  induction id using Nat.strongRecOn generalizing name with
  | ind id ih =>
      intro outer houter
      have hparent := h.parent?_of_find? hid
      cases henclosing : Namespace.enclosing? name with
      | none =>
          rw [Namespace.outers_of_enclosing?_eq_none henclosing] at houter
          cases houter
      | some inner =>
          rw [enclosingId?, henclosing] at hparent
          obtain ⟨place, hplace, -⟩ :=
            exists_parent?_of_holds (holds_of_find? hid) (ne_rootId_of_find? hid)
          have hinner := hparent.symm.trans hplace
          rw [Namespace.outers_of_enclosing? henclosing] at houter
          rcases List.mem_cons.mp houter with rfl | houter
          · exact contains_iff_exists_find?.mpr ⟨place, hinner⟩
          · exact ih place (parent?_lt hplace) (contains_iff_exists_find?.mpr ⟨place, hinner⟩)
              hinner outer houter

theorem WellFormed.contains_obtainNamed {registry : Registry} (h : registry.WellFormed)
    (name other : String) :
    (registry.obtainNamed name).registry.contains other = true ↔
      registry.contains other = true ∨ other = name ∨ other ∈ Namespace.outers name := by
  induction name using obtainNamed.induct registry with
  | case1 name id hfind =>
      have hname := contains_iff_exists_find?.mpr ⟨id, hfind⟩
      rw [obtainNamed_eq_of_find? hfind]
      constructor
      · exact .inl
      · rintro (hother | rfl | houter)
        · exact hother
        · exact hname
        · exact h.contains_outers hname other houter
  | case2 name hnone hroot =>
      rw [obtainNamed_of_find?_eq_none hnone, hroot, contains_append,
        Namespace.outers_of_enclosing?_eq_none hroot]
      simp
  | case3 name hnone outer houter ih =>
      rw [obtainNamed_of_find?_eq_none hnone, houter, contains_append, ih,
        Namespace.outers_of_enclosing? houter, List.mem_cons]
      grind

theorem WellFormed.contains_obtain {registry : Registry} (h : registry.WellFormed)
    (name other : String) :
    (registry.obtain name).registry.contains other = true ↔
      registry.contains other = true ∨
        ¬Namespace.IsRoot name ∧ (other = name ∨ other ∈ Namespace.outers name) := by
  rcases Decidable.em (Namespace.IsRoot name) with hroot | hroot
  · rw [obtain_of_isRoot hroot]
    simp [hroot]
  · have hsame : (registry.obtain name).registry = (registry.obtainNamed name).registry := by
      cases hlookup : registry.lookup? name with
      | some id =>
          rw [obtain_eq_of_lookup? hlookup,
            obtainNamed_eq_of_find? (find?_of_lookup? hlookup hroot)]
      | none => rw [obtain_of_lookup?_eq_none hlookup]
    rw [hsame, h.contains_obtainNamed]
    simp [hroot]

/-- The name below the root that an operation asks for, if it asks for one. -/
def Operation.requested? : Operation → Option String
  | .adjust name _ _ => if Namespace.IsRoot name then none else some name
  | .disable _ => none

theorem WellFormed.contains_perform {registry : Registry} (h : registry.WellFormed)
    (operation : Operation) (name : String) :
    (registry.perform operation).contains name = true ↔
      registry.contains name = true ∨
        ∃ request, operation.requested? = some request ∧
          (name = request ∨ name ∈ Namespace.outers request) := by
  cases operation with
  | disable level =>
      simp only [Operation.requested?, reduceCtorEq, false_and, exists_false, or_false]
      rfl
  | adjust asked generations adjustment =>
      have hcontains : (registry.perform (.adjust asked generations adjustment)).contains name =
          (registry.obtain asked).registry.contains name := by
        rw [perform]
        split
        · rfl
        · exact contains_update _ _ _ _
      rw [hcontains, h.contains_obtain, Operation.requested?]
      split <;> simp [*]

theorem WellFormed.contains_performAll {registry : Registry} (h : registry.WellFormed)
    (operations : List Operation) (name : String) :
    (registry.performAll operations).contains name = true ↔
      registry.contains name = true ∨
        ∃ request ∈ operations.filterMap Operation.requested?,
          name = request ∨ name ∈ Namespace.outers request := by
  induction operations generalizing registry with
  | nil => simp
  | cons operation rest ih =>
      rw [performAll_cons, ih (wellFormed_perform h operation), h.contains_perform]
      simp only [List.mem_filterMap, List.mem_cons]
      grind

theorem identities_fst (registry : Registry) :
    registry.identities.map Prod.fst = registry.loggers.map Logger.name := by
  rw [identities, List.map_map]
  rfl

theorem mem_loggers_names_iff {registry : Registry} {name : String} :
    name ∈ registry.loggers.map Logger.name ↔ registry.contains name = true := by
  rw [← identities_fst, contains, ← not_iff_not, ← find?_eq_none_iff, Bool.not_eq_true,
    Option.isSome_eq_false_iff, Option.isNone_iff_eq_none]

theorem mem_names_iff {registry : Registry} {name : String} :
    name ∈ registry.names ↔ registry.contains name = true := by
  rw [names, NameMap.mem_names_ofNames, mem_loggers_names_iff]

theorem names_ascending (registry : Registry) :
    registry.names.Pairwise fun name other => Text.Utf8.encode name < Text.Utf8.encode other :=
  (NameMap.names_ascending _).imp Text.Utf8.encode_lt_encode

theorem names_eq_of_contains_iff {registry other : Registry}
    (h : ∀ name, other.contains name = true ↔ registry.contains name = true) :
    other.names = registry.names := by
  have hmaps : NameMap.ofNames (other.loggers.map Logger.name) =
      NameMap.ofNames (registry.loggers.map Logger.name) := by
    apply NameMap.ext_get?
    intro name
    simp only [NameMap.get?_ofNames, mem_loggers_names_iff, h]
  rw [names, names, hmaps]

/-- A logger with the first name is directly below one with the second name. -/
def DirectlyBelow (registry : Registry) (name outer : String) : Prop :=
  ∃ id parent, registry.name id = name ∧ registry.parent? id = some parent ∧
    registry.name parent = outer

theorem holds_of_parent? {registry : Registry} {id parent : LoggerId}
    (h : registry.parent? id = some parent) : registry.Holds id := by
  cases id with
  | zero => cases h
  | succ k =>
      obtain ⟨logger, hlogger, -⟩ := Option.map_eq_some_iff.mp h
      obtain ⟨hlt, -⟩ := List.getElem?_eq_some_iff.mp hlogger
      exact hlt

theorem name_of_enclosingId? {registry : Registry} {name : String} {parent : LoggerId}
    (h : registry.enclosingId? name = some parent) :
    registry.name parent = (Namespace.enclosing? name).getD Namespace.rootName := by
  rw [enclosingId?] at h
  cases henclosing : Namespace.enclosing? name with
  | none =>
      rw [henclosing, Option.some.injEq] at h
      rw [← h]
      rfl
  | some outer =>
      rw [henclosing] at h
      exact name_of_find? h

theorem WellFormed.directlyBelow_iff {registry : Registry} (h : registry.WellFormed)
    {name outer : String} :
    registry.DirectlyBelow name outer ↔
      registry.contains name = true ∧
        outer = (Namespace.enclosing? name).getD Namespace.rootName := by
  constructor
  · rintro ⟨id, parent, rfl, hparent, rfl⟩
    have hroot : id ≠ rootId := by
      rintro rfl
      cases hparent
    have hid := h.find?_name (holds_of_parent? hparent) hroot
    have henclosing := (h.parent?_of_find? hid).symm.trans hparent
    exact ⟨contains_iff_exists_find?.mpr ⟨id, hid⟩, name_of_enclosingId? henclosing⟩
  · rintro ⟨hname, rfl⟩
    obtain ⟨id, hid⟩ := contains_iff_exists_find?.mp hname
    obtain ⟨parent, hparent, -⟩ :=
      exists_parent?_of_holds (holds_of_find? hid) (ne_rootId_of_find? hid)
    have henclosing := (h.parent?_of_find? hid).symm.trans hparent
    exact ⟨id, parent, name_of_find? hid, hparent, name_of_enclosingId? henclosing⟩

end Registry

/-- Something is set, also if it is what was set before. -/
def Adjustment.Sets : Adjustment → Prop
  | setLevel _ | setDefaultLevel | setPropagate _ | attach _ | offer (some _) => True
  | keep | detach _ | offer none => False

theorem Adjustment.apply_default {adjustment : Adjustment} (h : ¬adjustment.Sets) :
    adjustment.apply {} = {} := by
  cases adjustment with
  | keep => rfl
  | detach handler => rfl
  | offer handler =>
      cases handler with
      | none => rfl
      | some handler => exact absurd trivial h
  | _ => exact absurd trivial h

namespace Registry

/-- An operation sets something on the logger with a name, which it comes to from the logger that it
asks for: the enclosing namespaces are the generations above it. -/
def Operation.SetsOn (name : String) : Operation → Prop
  | .adjust asked generations adjustment =>
      adjustment.Sets ∧ ¬Namespace.IsRoot asked ∧
        (asked :: Namespace.outers asked)[generations]? = some name
  | .disable _ => False

theorem WellFormed.name_of_climb? {registry : Registry} (h : registry.WellFormed) {asked : String}
    {id place : LoggerId} (hid : registry.lookup? asked = some id) {generations : Nat}
    (hplace : registry.climb? id generations = some place) (hroot : place ≠ rootId) :
    ¬Namespace.IsRoot asked ∧
      (asked :: Namespace.outers asked)[generations]? = some (registry.name place) := by
  rw [climb?_eq_getElem?] at hplace
  have hasked : ¬Namespace.IsRoot asked := by
    intro hasked
    rw [lookup?_of_isRoot hasked, Option.some.injEq] at hid
    rw [← hid, ancestry_root] at hplace
    exact hroot (List.mem_singleton.mp (List.mem_of_getElem? hplace))
  have hfind := find?_of_lookup? hid hasked
  have hnames := h.names_ancestry hfind
  have hlength := congrArg List.length hnames
  rw [List.length_map, List.length_append, List.length_singleton] at hlength
  have hlast := getLast?_ancestry (holds_of_find? hfind)
  rw [List.getLast?_eq_getElem?, hlength, Nat.add_one_sub_one] at hlast
  obtain ⟨hlt, -⟩ := List.getElem?_eq_some_iff.mp hplace
  -- Only the last place of the walk has no enclosing namespace, and there the root is.
  have hinside : generations < (asked :: Namespace.outers asked).length := by
    refine Nat.lt_of_le_of_ne (by omega) ?_
    rintro rfl
    rw [hplace, Option.some.injEq] at hlast
    exact hroot hlast
  refine ⟨hasked, ?_⟩
  rw [← List.getElem?_append_left hinside, ← hnames, List.getElem?_map, hplace]
  rfl

theorem WellFormed.settings_perform_of_not_setsOn {registry : Registry} (h : registry.WellFormed)
    {operation : Operation} {name : String} {id : LoggerId} (hroot : id ≠ rootId)
    (hname : (registry.perform operation).Holds id → (registry.perform operation).name id = name)
    (hsets : ¬operation.SetsOn name) (hsettings : registry.settings id = {}) :
    (registry.perform operation).settings id = {} := by
  cases operation with
  | disable level =>
      rw [← hsettings]
      cases id <;> rfl
  | adjust asked generations adjustment =>
      have hobtain := (settings_obtain registry asked id).trans hsettings
      rw [perform] at hname ⊢
      cases hplace : (registry.obtain asked).registry.climb? (registry.obtain asked).id
          generations with
      | none => exact hobtain
      | some place =>
          simp only [hplace] at hname ⊢
          rw [settings_update, hobtain]
          split
          · next hself =>
              obtain ⟨rfl, hholds⟩ := hself
              apply Adjustment.apply_default
              intro hadjustment
              have hplaced := (wellFormed_obtain h asked).name_of_climb?
                (registry.lookup?_obtain_self asked) hplace hroot
              rw [holds_update, name_update] at hname
              rw [hname hholds] at hplaced
              exact hsets ⟨hadjustment, hplaced⟩
          · rfl

theorem WellFormed.settings_performAll_of_not_setsOn {registry : Registry}
    (h : registry.WellFormed) {operations : List Operation} {name : String} {id : LoggerId}
    (hid : (registry.performAll operations).find? name = some id)
    (hsets : ∀ operation ∈ operations, ¬operation.SetsOn name)
    (hsettings : registry.settings id = {}) :
    (registry.performAll operations).settings id = {} := by
  induction operations generalizing registry with
  | nil => exact hsettings
  | cons operation rest ih =>
      obtain ⟨hfirst, hrest⟩ := List.forall_mem_cons.mp hsets
      -- Once the logger is there, it has the name by which it is found in the end.
      have hname : (registry.perform operation).Holds id →
          (registry.perform operation).name id = name := by
        intro hholds
        rw [← name_of_find? hid]
        exact ((grows_performAll _ rest).name_eq hholds).symm
      exact ih (wellFormed_perform h operation) hid hrest
        (h.settings_perform_of_not_setsOn (ne_rootId_of_find? hid) hname hfirst hsettings)

/-- The loggers below the root are those of some names and of the namespaces that enclose them,
which end before a dot, and they are listed in the order of their octets. -/
structure ClosureOf (registry : Registry) (requests : List String) : Prop where
  contains_iff : ∀ name, registry.contains name = true ↔
    name ≠ "" ∧ ∃ request ∈ requests, request = name ∨ ∃ rest, request = name ++ "." ++ rest
  mem_names_iff : ∀ name, name ∈ registry.names ↔ registry.contains name = true
  ascending :
    registry.names.Pairwise fun name other => Text.Utf8.encode name < Text.Utf8.encode other

theorem ClosureOf.names_eq {registry other : Registry} {requests others : List String}
    (h : registry.ClosureOf requests) (h' : other.ClosureOf others)
    (hsame : ∀ name, name ∈ others ↔ name ∈ requests) : other.names = registry.names := by
  apply names_eq_of_contains_iff
  intro name
  simp only [h.contains_iff, h'.contains_iff, hsame]

theorem ClosureOf.directlyBelow_iff {registry other : Registry} {requests others : List String}
    (h : registry.ClosureOf requests) (h' : other.ClosureOf others) (hwf : registry.WellFormed)
    (hwf' : other.WellFormed) (hsame : ∀ name, name ∈ others ↔ name ∈ requests)
    (name outer : String) : other.DirectlyBelow name outer ↔ registry.DirectlyBelow name outer := by
  rw [hwf.directlyBelow_iff, hwf'.directlyBelow_iff, ← h.mem_names_iff, ← h'.mem_names_iff,
    h.names_eq h' hsame]

theorem ne_empty_of_requested? {operation : Operation} {request : String}
    (h : operation.requested? = some request) : request ≠ "" := by
  cases operation with
  | disable level => cases h
  | adjust asked generations adjustment =>
      rw [Operation.requested?] at h
      split at h
      · cases h
      · next hroot =>
          rintro rfl
          exact hroot (.inl (Option.some.inj h))

theorem closureOf_performAll (operations : List Operation) :
    (performAll {} operations).ClosureOf (operations.filterMap Operation.requested?) := by
  refine ⟨?_, fun _ => mem_names_iff, names_ascending _⟩
  intro name
  have hfresh : contains {} name = false := rfl
  rw [wellFormed_fresh.contains_performAll, hfresh]
  simp only [Bool.false_eq_true, false_or, Namespace.mem_outers_iff]
  constructor
  · rintro ⟨request, hrequest, rfl | ⟨hne, hrest⟩⟩
    · obtain ⟨operation, -, hasked⟩ := List.mem_filterMap.mp hrequest
      exact ⟨ne_empty_of_requested? hasked, name, hrequest, .inl rfl⟩
    · exact ⟨hne, request, hrequest, .inr hrest⟩
  · rintro ⟨hne, request, hrequest, rfl | hrest⟩
    · exact ⟨request, hrequest, .inl rfl⟩
    · exact ⟨request, hrequest, .inr ⟨hne, hrest⟩⟩

end Registry

namespace Session

/-- The names below the root that a run asks a registry for. -/
def requests (session : Session) (key : String) (commands : List Command) : List String :=
  (session.runOperations key commands).filterMap Registry.Operation.requested?

/-- In every state of a run, a registry has the loggers of the names that were asked for and of the
namespaces that enclose them, and those on which nothing was set are as they were created. Runs that
ask for the same names, in whatever order and however often, come to the same names, and to the same
names of parents. -/
theorem registry_is_closure_of_requests (moment later : Moment) (commands others : List Command)
    (key place : String) :
    let registry := (run { moment } commands).1.registry key
    let other := (run { moment := later } others).1.registry place
    let requests := requests { moment } key commands
    registry.ClosureOf requests ∧
      (∀ name id, registry.find? name = some id →
        (∀ operation ∈ runOperations { moment } key commands, ¬operation.SetsOn name) →
        registry.level id = .notset ∧ registry.propagate id = true ∧ registry.handlers id = []) ∧
      ((∀ name, name ∈ Session.requests { moment := later } place others ↔ name ∈ requests) →
        other.names = registry.names ∧
          ∀ name outer, other.DirectlyBelow name outer ↔ registry.DirectlyBelow name outer) := by
  have hclosure : ∀ (moment : Moment) (commands : List Command) (key : String),
      ((run { moment } commands).1.registry key).ClosureOf (requests { moment } key commands) := by
    intro moment commands key
    rw [registry_run, registry_fresh]
    exact Registry.closureOf_performAll _
  intro registry other requests
  refine ⟨hclosure moment commands key, ?_, ?_⟩
  · intro name id hid hsets
    have hsettings : registry.settings id = {} := by
      unfold registry at hid ⊢
      rw [registry_run, registry_fresh] at hid ⊢
      refine Registry.wellFormed_fresh.settings_performAll_of_not_setsOn hid hsets ?_
      cases id with
      | zero => exact absurd rfl (Registry.ne_rootId_of_find? hid)
      | succ k => rfl
    rw [Registry.level, Registry.propagate, Registry.handlers, hsettings]
    exact ⟨rfl, rfl, rfl⟩
  · intro hsame
    have h := hclosure moment commands key
    have h' := hclosure later others place
    refine ⟨h.names_eq h' hsame, ?_⟩
    exact h.directlyBelow_iff h' (wellFormed_registry_run moment commands key)
      (wellFormed_registry_run later others place) hsame

/-- Neither the order of requests nor a repeated one makes a difference. -/
theorem registry_of_repeated_requests :
    let commands := [Command.registry "main" (.same "b.c" "a..x")]
    let others := [Command.logger { registry := "main", name := "a..x" } .report,
      .registry "main" (.apply { levels := NameMap.insert ∅ "b.c" .info }),
      .registry "main" (.chain "a..x")]
    let moment : Moment := { instant := { seconds := 0 } }
    let registry := (run { moment } commands).1.registry "main"
    let other := (run { moment } others).1.registry "main"
    (∀ name, name ∈ requests { moment } "main" others ↔
      name ∈ requests { moment } "main" commands) ∧
      other.names = registry.names ∧ registry.names = ["a", "a.", "a..x", "b", "b.c"] ∧
      other.DirectlyBelow "a..x" "a." := by
  have hothers : requests { moment := { instant := { seconds := 0 } } } "main" [
      .logger { registry := "main", name := "a..x" } .report,
      .registry "main" (.apply { levels := NameMap.insert ∅ "b.c" .info }),
      .registry "main" (.chain "a..x")] = ["a..x", "b.c", "a..x"] := by
    cbv
  have hcommands : requests { moment := { instant := { seconds := 0 } } } "main" [
      .registry "main" (.same "b.c" "a..x")] = ["b.c", "a..x"] := by
    cbv
  have hnames : ((run { moment := { instant := { seconds := 0 } } } [
      .registry "main" (.same "b.c" "a..x")]).1.registry "main").names =
        ["a", "a.", "a..x", "b", "b.c"] := by
    cbv
  intro commands others moment registry other
  have hsame : ∀ name, name ∈ requests { moment } "main" others ↔
      name ∈ requests { moment } "main" commands := by
    intro name
    rw [hothers, hcommands]
    simp only [List.mem_cons]
    tauto
  obtain ⟨-, -, hruns⟩ :=
    registry_is_closure_of_requests moment moment commands others "main" "main"
  obtain ⟨hother, hbelow⟩ := hruns hsame
  refine ⟨hsame, hother, hnames, ?_⟩
  rw [hbelow, (wellFormed_registry_run moment commands "main").directlyBelow_iff,
    ← Registry.mem_names_iff]
  refine ⟨?_, by decide⟩
  rw [show registry.names = _ from hnames]
  decide

end Session

end LogTree
