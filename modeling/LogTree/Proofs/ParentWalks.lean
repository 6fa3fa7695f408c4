import LogTree.Proofs.LoggerIdentity
import LogTree.Proofs.RecordDispatch

/-!
Walks from a logger to its parents. A walk meets the loggers of the namespaces that enclose the
name, the innermost first, and ends at the root. So every loop along a walk comes to its end, after
a number of turns that the dots of the name give.
-/

namespace LogTree

theorem Namespace.length_dots (text : List Char) :
    (Namespace.dots text).length = (text.drop 1).count '.' := by
  have hcount : ∀ rest : List Char,
      ((List.range rest.length).filter fun i => rest[i]? = some '.').length = rest.count '.' := by
    intro rest
    induction rest with
    | nil => rfl
    | cons c rest ih =>
        rw [List.length_cons, List.range_succ_eq_map, List.filter_cons, List.filter_map,
          List.count_cons, ← ih]
        by_cases hdot : c = '.' <;> simp [hdot, Function.comp_def]
  rcases text with _ | ⟨c, rest⟩
  · rfl
  · rw [List.drop_succ_cons, List.drop_zero, ← hcount, Namespace.dots, List.length_cons,
      List.range_succ_eq_map, List.filter_cons, List.filter_map]
    simp [Function.comp_def]

namespace Registry

theorem ancestry_root (registry : Registry) : registry.ancestry rootId = [rootId] :=
  ancestry_of_parent?_eq_none rfl

theorem climb?_eq_getElem? (registry : Registry) (id : LoggerId) (generations : Nat) :
    registry.climb? id generations = (registry.ancestry id)[generations]? := by
  induction generations generalizing id with
  | zero =>
      rw [climb?, ancestry]
      split <;> rfl
  | succ generations ih =>
      rw [climb?]
      cases hparent : registry.parent? id with
      | none => rw [ancestry_of_parent?_eq_none hparent]; rfl
      | some outer => rw [ancestry_of_parent? hparent, Option.bind_some, ih,
          List.getElem?_cons_succ]

theorem ancestry_descends (registry : Registry) (id : LoggerId) :
    (registry.ancestry id).Pairwise (· > ·) ∧ ∀ outer ∈ registry.ancestry id, outer ≤ id := by
  -- Parents have smaller places in every registry, so the induction is on the place.
  induction id using Nat.strongRecOn with
  | ind id ih =>
      cases hparent : registry.parent? id with
      | none =>
          rw [ancestry_of_parent?_eq_none hparent]
          exact ⟨List.pairwise_singleton _ _, by simp⟩
      | some outer =>
          have hlt := parent?_lt hparent
          obtain ⟨hpairwise, hle⟩ := ih outer hlt
          rw [ancestry_of_parent? hparent]
          refine ⟨List.pairwise_cons.mpr ⟨?_, hpairwise⟩, ?_⟩
          · intro other hother
            exact Nat.lt_of_le_of_lt (hle other hother) hlt
          · rintro other (_ | ⟨_, hother⟩)
            · exact Nat.le_refl id
            · exact Nat.le_trans (hle other hother) (Nat.le_of_lt hlt)

theorem parent?_eq_none_iff {registry : Registry} {id : LoggerId} (h : registry.Holds id) :
    registry.parent? id = none ↔ id = rootId := by
  constructor
  · intro hnone
    rcases Decidable.em (id = rootId) with hroot | hroot
    · exact hroot
    · obtain ⟨outer, houter, -⟩ := exists_parent?_of_holds h hroot
      rw [hnone] at houter
      cases houter
  · rintro rfl
    rfl

theorem getLast?_ancestry {registry : Registry} {id : LoggerId} (h : registry.Holds id) :
    (registry.ancestry id).getLast? = some rootId := by
  induction id using Nat.strongRecOn with
  | ind id ih =>
      rcases Decidable.em (id = rootId) with rfl | hroot
      · rw [ancestry_root]
        rfl
      · obtain ⟨outer, houter, hholds⟩ := exists_parent?_of_holds h hroot
        have hlast := ih outer (parent?_lt houter) hholds
        rw [ancestry_of_parent? houter, List.getLast?_cons, hlast]
        rfl

theorem WellFormed.names_ancestry {registry : Registry} (h : registry.WellFormed) {name : String}
    {id : LoggerId} (hid : registry.find? name = some id) :
    (registry.ancestry id).map registry.name =
      name :: Namespace.outers name ++ [Namespace.rootName] := by
  induction id using Nat.strongRecOn generalizing name with
  | ind id ih =>
      -- The parent stands for the enclosing namespace, which the invariant of the registry says.
      have hparent := h.parent?_of_find? hid
      have hname := name_of_find? hid
      cases henclosing : Namespace.enclosing? name with
      | none =>
          rw [enclosingId?, henclosing] at hparent
          rw [ancestry_of_parent? hparent, ancestry_root,
            Namespace.outers_of_enclosing?_eq_none henclosing, List.map_cons, hname]
          rfl
      | some outer =>
          rw [enclosingId?, henclosing] at hparent
          obtain ⟨outerId, houter, -⟩ := exists_parent?_of_holds (holds_of_find? hid)
            (ne_rootId_of_find? hid)
          have hnames := ih outerId (parent?_lt houter) (hparent.symm.trans houter)
          rw [ancestry_of_parent? houter, List.map_cons, hnames, hname,
            Namespace.outers_of_enclosing? henclosing]
          rfl

theorem WellFormed.length_ancestry {registry : Registry} (h : registry.WellFormed)
    {name : String} {id : LoggerId} (hid : registry.find? name = some id) :
    (registry.ancestry id).length = (name.toList.drop 1).count '.' + 2 := by
  have hnames := congrArg List.length (h.names_ancestry hid)
  simpa [Namespace.outers, Namespace.length_dots] using hnames

theorem WellFormed.length_ancestry_le {registry : Registry} (h : registry.WellFormed)
    {id : LoggerId} (hid : registry.Holds id) :
    (registry.ancestry id).length ≤ ((registry.name id).toList.drop 1).count '.' + 2 := by
  rcases Decidable.em (id = rootId) with rfl | hroot
  · rw [ancestry_root]
    exact Nat.succ_le_succ (Nat.zero_le _)
  · exact Nat.le_of_eq (h.length_ancestry (h.find?_name hid hroot))

/-- A walk to the parents meets the loggers of the enclosing namespaces and ends at the root. -/
structure WalksOutward (registry : Registry) (id : LoggerId) (name : String) : Prop where
  /-- So many parents up, the walk is at this place. -/
  climb?_eq : ∀ generations,
    registry.climb? id generations = (registry.ancestry id)[generations]?
  names_eq : (registry.ancestry id).map registry.name =
    name :: Namespace.outers name ++ [Namespace.rootName]
  /-- There is one step for each dot that is not at the beginning, and one to the root. -/
  length_eq : (registry.ancestry id).length = (name.toList.drop 1).count '.' + 1 + 1
  last_eq : (registry.ancestry id).getLast? = some rootId
  topmost : ∀ outer ∈ registry.ancestry id, registry.parent? outer = none ↔ outer = rootId
  nodup : (registry.ancestry id).Nodup

theorem WellFormed.walksOutward {registry : Registry} (h : registry.WellFormed) {name : String}
    {id : LoggerId} (hid : registry.find? name = some id) : registry.WalksOutward id name where
  climb?_eq := registry.climb?_eq_getElem? id
  names_eq := h.names_ancestry hid
  length_eq := h.length_ancestry hid
  last_eq := getLast?_ancestry (holds_of_find? hid)
  topmost := by
    intro outer houter
    have hle := (registry.ancestry_descends id).2 outer houter
    exact parent?_eq_none_iff (Nat.le_trans hle (holds_of_find? hid))
  nodup := (registry.ancestry_descends id).1.imp Nat.ne_of_gt

/-- What a loop does at a logger: it stops with a result, or it goes on to the parent. -/
inductive Turn (State : Type) where
  | stop (result : State)
  | goOn (next : State)

/-- A loop along a walk that may take so many turns. Where they do not suffice it has no result. -/
def loop {State : Type} (registry : Registry) (turn : LoggerId → State → Turn State) :
    Nat → LoggerId → State → Option State
  | 0, _, _ => none
  | turns + 1, id, state =>
      match turn id state with
      | .stop result => some result
      | .goOn next =>
          match registry.parent? id with
          | none => some next
          | some outer => registry.loop turn turns outer next

/-- A function that takes the same turns as a loop is what the loop comes to, if the loop may take
as many turns as the walk has loggers. -/
theorem loop_eq_some {State : Type} {registry : Registry}
    {turn : LoggerId → State → Turn State} {f : LoggerId → State → State}
    (hf : ∀ id state, f id state =
      match turn id state with
      | .stop result => result
      | .goOn next =>
          match registry.parent? id with
          | none => next
          | some outer => f outer next)
    {turns : Nat} {id : LoggerId} (hturns : (registry.ancestry id).length ≤ turns)
    (state : State) : registry.loop turn turns id state = some (f id state) := by
  induction turns generalizing id state with
  | zero =>
      -- A walk begins with the logger itself, so there is a turn to take.
      have hlast := List.length_eq_zero_iff.mp (Nat.le_zero.mp hturns)
      rw [ancestry] at hlast
      split at hlast <;> cases hlast
  | succ turns ih =>
      rw [loop, hf]
      cases turn id state with
      | stop result => rfl
      | goOn next =>
          cases hparent : registry.parent? id with
          | none => rfl
          | some outer =>
              rw [ancestry_of_parent? hparent, List.length_cons] at hturns
              exact ih (Nat.le_of_succ_le_succ hturns) next

def levelTurn (registry : Registry) (id : LoggerId) (_ : Level) : Turn Level :=
  if registry.level id ≠ .notset then .stop (registry.level id) else .goOn .notset

def handlersTurn (registry : Registry) (id : LoggerId) (_ : Bool) : Turn Bool :=
  if registry.hasOwnHandlers id then .stop true
  else if !registry.propagate id then .stop false
  else .goOn false

def recordTurn (registry : Registry) (record : Record) (id : LoggerId) (delivery : Delivery) :
    Turn Delivery :=
  let delivery := (registry.handlers id).foldl (Delivery.offer · record ·) delivery
  if delivery.aborted || !registry.propagate id then .stop delivery else .goOn delivery

/-- The loops from a logger on end within so many turns, with the results that they have. -/
structure LoopsEnd (registry : Registry) (id : LoggerId) (turns : Nat) : Prop where
  effectiveLevel : registry.loop registry.levelTurn turns id .notset =
    some (registry.effectiveLevel id)
  hasHandlers : registry.loop registry.handlersTurn turns id false =
    some (registry.hasHandlers id)
  emit : ∀ level failure draft outputs,
    let record := Record.ofDraft (registry.name id) level failure draft
    (registry.loop (registry.recordTurn record) turns id { outputs }).map (·.finish record) =
      some (registry.emit id level failure draft outputs)

theorem loopsEnd {registry : Registry} {id : LoggerId} {turns : Nat}
    (h : (registry.ancestry id).length ≤ turns) : registry.LoopsEnd id turns where
  effectiveLevel := by
    refine loop_eq_some (f := fun id _ => registry.effectiveLevel id) ?_ h .notset
    intro id _
    rw [levelTurn, Registry.effectiveLevel]
    split
    · rfl
    · split <;> simp_all
  hasHandlers := by
    refine loop_eq_some (f := fun id _ => registry.hasHandlers id) ?_ h false
    intro id _
    rw [handlersTurn, Registry.hasHandlers]
    split
    · rfl
    · split
      · rfl
      · split <;> simp_all
  emit := by
    intro level failure draft outputs record
    have hdispatch : registry.loop (registry.recordTurn record) turns id { outputs } =
        some (registry.dispatch record id { outputs }) := by
      refine loop_eq_some (f := registry.dispatch record) ?_ h { outputs }
      intro id delivery
      rw [recordTurn, dispatch]
      split
      · rfl
      · split <;> simp_all
    rw [hdispatch]
    rfl

theorem holds_root (registry : Registry) : registry.Holds rootId :=
  Nat.zero_le _

/-- A request for a logger in which requests for enclosing namespaces may be nested so deep. Where
that does not suffice there is no logger. -/
def obtainWithin (registry : Registry) : Nat → String → Option Located
  | 0, _ => none
  | depth + 1, name =>
      match hfound : registry.find? name with
      | some id => some ⟨registry, id, holds_of_find? hfound⟩
      | none =>
          match Namespace.enclosing? name with
          | none => some (append ⟨registry, rootId, registry.holds_root⟩ name)
          | some outer => (registry.obtainWithin depth outer).map (append · name)

theorem obtainWithin_eq_some (registry : Registry) {name : String} {depth : Nat}
    (h : (Namespace.outers name).length < depth) :
    registry.obtainWithin depth name = some (registry.obtainNamed name) := by
  induction depth generalizing name with
  | zero => exact absurd h (Nat.not_lt_zero _)
  | succ depth ih =>
      rw [obtainWithin]
      split
      · next id hid =>
          rw [obtainNamed_eq_of_find? hid]
      · next hnone =>
          rw [obtainNamed_of_find?_eq_none hnone]
          cases houter : Namespace.enclosing? name with
          | none => rfl
          | some outer =>
              rw [Namespace.outers_of_enclosing? houter, List.length_cons] at h
              change (registry.obtainWithin depth outer).map (append · name) =
                some (append (registry.obtainNamed outer) name)
              rw [ih (Nat.lt_of_succ_lt_succ h), Option.map_some]

end Registry

namespace Session

/-- In every state of a run, the walk from the logger for a name meets the loggers of the texts
before its dots, the longest first, and then the root. So loops from any logger and requests for any
name come to their end within as many turns as there are dots, and two. -/
theorem walks_meet_enclosing_namespaces (moment : Moment) (commands : List Command) (key : String)
    {name : String} (hname : ¬Namespace.IsRoot name) :
    let session := (run { moment } commands).1
    let registry := session.registry key
    let located := registry.obtain name
    located.registry.WalksOutward located.id name ∧
      (session.step (.registry key (.chain name))).2 =
        .ok (.names (name :: Namespace.outers name ++ [Namespace.rootName])) ∧
      (∀ id, registry.Holds id →
        registry.LoopsEnd id (((registry.name id).toList.drop 1).count '.' + 2)) ∧
      ∀ other, registry.obtainWithin ((other.toList.drop 1).count '.' + 1) other =
        some (registry.obtainNamed other) := by
  intro session registry located
  have hwf := wellFormed_registry_run moment commands key
  have hfind := Registry.find?_of_lookup? (registry.lookup?_obtain_self name) hname
  have hwalks := (Registry.wellFormed_obtain hwf name).walksOutward hfind
  refine ⟨hwalks, ?_, ?_, ?_⟩
  · rw [← hwalks.names_eq]
    rfl
  · intro id hid
    exact Registry.loopsEnd (hwf.length_ancestry_le hid)
  · intro other
    apply registry.obtainWithin_eq_some
    rw [Namespace.outers, List.length_map, List.length_reverse, Namespace.length_dots]
    exact Nat.lt_succ_self _

/-- Doubled dots are walked one by one. -/
theorem walk_meets_doubled_dots :
    ¬Namespace.IsRoot "a..b" ∧
      ((run { moment := { instant := { seconds := 0 } } } []).1.step
        (.registry "main" (.chain "a..b"))).2 = .ok (.names ["a..b", "a.", "a", "root"]) := by
  have hname : ¬Namespace.IsRoot "a..b" := by decide
  have houters : Namespace.outers "a..b" = ["a.", "a"] := by decide
  have hwalk := walks_meet_enclosing_namespaces { instant := { seconds := 0 } } [] "main" hname
  refine ⟨hname, ?_⟩
  rw [hwalk.2.1, houters]
  rfl

end Session

end LogTree
