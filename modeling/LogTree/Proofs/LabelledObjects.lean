import LogTree.Proofs.LevelResolution
import LogTree.Proofs.ObjectWrites
import LogTree.Proofs.ParentWalks

namespace LogTree

/-- An empty label counts as none. -/
def Unlabelled (label : Option String) : Prop :=
  label = none ∨ label = some ""

/-- What a label adds to the namespace of a class. -/
def labelSuffix (label : Option String) : String :=
  match label with
  | none => ""
  | some text => if text = "" then "" else "." ++ text

theorem labelSuffix_of_unlabelled {label : Option String} (h : Unlabelled label) :
    labelSuffix label = "" := by
  rcases h with rfl | rfl
  · rfl
  · rw [labelSuffix, if_pos rfl]

theorem exists_labelSuffix_of_labelled {label : Option String} (h : ¬Unlabelled label) :
    ∃ text, label = some text ∧ labelSuffix label = "." ++ text := by
  cases label with
  | none => exact absurd (.inl rfl) h
  | some text =>
      have hne : text ≠ "" := by
        rintro rfl
        exact h (.inr rfl)
      exact ⟨text, rfl, if_neg hne⟩

theorem labelSuffix_eq_empty_iff {label : Option String} :
    labelSuffix label = "" ↔ Unlabelled label := by
  by_cases hlabel : Unlabelled label
  · exact iff_of_true (labelSuffix_of_unlabelled hlabel) hlabel
  · obtain ⟨text, -, hsuffix⟩ := exists_labelSuffix_of_labelled hlabel
    refine iff_of_false ?_ hlabel
    intro hempty
    have hdot : '.' ∈ (labelSuffix label).toList := by simp [hsuffix]
    rw [hempty] at hdot
    exact absurd hdot (by decide)

theorem labelSuffix_eq_iff {label another : Option String} :
    labelSuffix label = labelSuffix another ↔
      label = another ∨ Unlabelled label ∧ Unlabelled another := by
  constructor
  · intro heq
    by_cases hlabel : Unlabelled label
    · rw [labelSuffix_of_unlabelled hlabel] at heq
      exact .inr ⟨hlabel, labelSuffix_eq_empty_iff.mp heq.symm⟩
    · have hanother : ¬Unlabelled another := by
        rwa [← labelSuffix_eq_empty_iff, ← heq, labelSuffix_eq_empty_iff]
      obtain ⟨text, rfl, hsuffix⟩ := exists_labelSuffix_of_labelled hlabel
      obtain ⟨different, rfl, hsuffix'⟩ := exists_labelSuffix_of_labelled hanother
      rw [hsuffix, hsuffix', String.append_right_inj] at heq
      exact .inl (congrArg some heq)
  · rintro (rfl | ⟨hlabel, hanother⟩)
    · rfl
    · rw [labelSuffix_of_unlabelled hlabel, labelSuffix_of_unlabelled hanother]

namespace LoggedClass

theorem instanceName_eq (cls : LoggedClass) (label : Option String) :
    cls.instanceName label = cls.namespaceName ++ labelSuffix label := by
  by_cases hlabel : Unlabelled label
  · rw [labelSuffix_of_unlabelled hlabel, String.append_empty]
    rcases hlabel with rfl | rfl
    · rfl
    · rw [instanceName, if_pos rfl]
  · obtain ⟨text, rfl, hsuffix⟩ := exists_labelSuffix_of_labelled hlabel
    rw [hsuffix, ← String.append_assoc]
    exact if_neg fun hempty => hlabel (.inr (congrArg some hempty))

theorem within_instanceName (cls : LoggedClass) (label : Option String) :
    Namespace.Within cls.namespaceName (cls.instanceName label) := by
  rw [instanceName_eq]
  by_cases hlabel : Unlabelled label
  · rw [labelSuffix_of_unlabelled hlabel, String.append_empty]
    exact .inl rfl
  · obtain ⟨text, -, hsuffix⟩ := exists_labelSuffix_of_labelled hlabel
    rw [hsuffix, ← String.append_assoc]
    exact .inr ⟨text, rfl⟩

theorem unlabelled_of_isRoot {cls : LoggedClass} {label : Option String}
    (h : Namespace.IsRoot (cls.instanceName label)) : Unlabelled label := by
  refine Classical.byContradiction fun hlabel => ?_
  obtain ⟨text, -, hsuffix⟩ := exists_labelSuffix_of_labelled hlabel
  rw [instanceName_eq, hsuffix, ← String.append_assoc] at h
  exact Namespace.not_isRoot_append _ _ h

theorem instanceName_same_iff {cls other : LoggedClass}
    (h : other.namespaceName = cls.namespaceName) {label another : Option String} :
    (cls.instanceName label = other.instanceName another ∨
        Namespace.IsRoot (cls.instanceName label) ∧
          Namespace.IsRoot (other.instanceName another)) ↔
      label = another ∨ Unlabelled label ∧ Unlabelled another := by
  constructor
  · rintro (heq | ⟨hroot, hroot'⟩)
    · rw [instanceName_eq, instanceName_eq, h, String.append_right_inj] at heq
      exact labelSuffix_eq_iff.mp heq
    · exact .inr ⟨unlabelled_of_isRoot hroot, unlabelled_of_isRoot hroot'⟩
  · intro hsame
    left
    rw [instanceName_eq, instanceName_eq, h, labelSuffix_eq_iff.mpr hsame]

end LoggedClass

namespace Registry

theorem WellFormed.mem_ancestry_of_within {registry : Registry} (h : registry.WellFormed)
    {outer name : String} {id : LoggerId} (hid : registry.lookup? name = some id)
    (hwithin : Namespace.Within outer name) :
    ∃ place, registry.lookup? outer = some place ∧ place ∈ registry.ancestry id := by
  by_cases houter : Namespace.IsRoot outer
  · exact ⟨rootId, lookup?_of_isRoot houter,
      List.mem_of_getLast? (getLast?_ancestry (holds_of_lookup? hid))⟩
  · have hfind := find?_of_lookup? hid (hwithin.not_isRoot houter)
    have hne : outer ≠ "" := fun hempty => houter (.inl hempty)
    have hnames : outer ∈ (registry.ancestry id).map registry.name := by
      rw [h.names_ancestry hfind]
      apply List.mem_append_left
      exact List.mem_cons.mpr (((Namespace.within_iff hne).mp hwithin).imp_left Eq.symm)
    obtain ⟨place, hplace, rfl⟩ := List.mem_map.mp hnames
    have hroot : place ≠ rootId := by
      rintro rfl
      exact houter (.inr rfl)
    have hholds : registry.Holds place :=
      Nat.le_trans ((registry.ancestry_descends id).2 place hplace) (holds_of_find? hfind)
    exact ⟨place, lookup?_of_find? (h.find?_name hholds hroot) houter, hplace⟩

theorem effectiveLevel_of_ancestry {registry : Registry} {id outer : LoggerId}
    {inner further : List LoggerId} (h : registry.ancestry id = inner ++ outer :: further)
    (hinner : ∀ place ∈ inner, registry.level place = .notset) :
    registry.effectiveLevel id = registry.effectiveLevel outer := by
  induction inner generalizing id with
  | nil =>
      rw [ancestry] at h
      split at h
      · obtain rfl := (List.cons.inj h).1
        rfl
      · obtain rfl := (List.cons.inj h).1
        rfl
  | cons place rest ih =>
      cases hparent : registry.parent? id with
      | none =>
          rw [ancestry_of_parent?_eq_none hparent] at h
          simp at h
      | some parent =>
          rw [ancestry_of_parent? hparent] at h
          obtain ⟨rfl, hrest⟩ := List.cons.inj h
          obtain ⟨hlevel, hlevels⟩ := List.forall_mem_cons.mp hinner
          rw [effectiveLevel_of_parent? hparent, if_pos hlevel, ih hrest hlevels]

/-- An object logs below its class: the logger of the class is there, and the walk from the logger
of the object meets it. -/
structure LogsBelowClass (registry : Registry) (object : Instance) : Prop where
  mem_ancestry : ∃ id, registry.lookup? object.loggedClass.namespaceName = some id ∧
    id ∈ registry.ancestry object.state.outlet.logger
  /-- If the object asks for no output of its own and nothing is set from its logger up to that of
  the class, the level of the class counts. -/
  effectiveLevel_eq : object.state.echo = .unset ∨ object.state.echo = .off →
    ∀ id inner further, registry.lookup? object.loggedClass.namespaceName = some id →
      registry.ancestry object.state.outlet.logger = inner ++ id :: further →
      (∀ place ∈ inner, registry.level place = .notset) →
      object.state.outlet.effectiveLevel registry = registry.effectiveLevel id

theorem WellFormed.logsBelowClass {registry : Registry} (h : registry.WellFormed)
    {object : Owned Instance} {record : ObjectRecord} (hshows : registry.Shows object record) :
    registry.LogsBelowClass object.value := by
  obtain ⟨id, hid, houtlet⟩ := hshows.outlet_eq
  have hclass := hshows.loggedClass_eq
  constructor
  · rw [houtlet, Outlet.logger_ofEcho, hclass]
    exact h.mem_ancestry_of_within hid (record.loggedClass.within_instanceName record.builtFor)
  · intro hecho place inner further _ hancestry hinner
    have heffective : object.value.state.outlet.effectiveLevel registry =
        registry.effectiveLevel object.value.state.outlet.logger := by
      rw [hshows.echo_eq] at hecho
      rw [houtlet, Outlet.effectiveLevel_ofEcho, Outlet.logger_ofEcho]
      rcases hecho with hecho | hecho <;> rw [hecho]
    rw [heffective, effectiveLevel_of_ancestry hancestry hinner]

theorem Shows.same_logger_iff {registry : Registry} {object other : Owned Instance}
    {record another : ObjectRecord} (h : registry.Shows object record)
    (h' : registry.Shows other another) :
    object.value.state.outlet.logger = other.value.state.outlet.logger ↔
      record.name = another.name ∨
        Namespace.IsRoot record.name ∧ Namespace.IsRoot another.name := by
  obtain ⟨id, hid, houtlet⟩ := h.outlet_eq
  obtain ⟨id', hid', houtlet'⟩ := h'.outlet_eq
  rw [houtlet, houtlet', Outlet.logger_ofEcho, Outlet.logger_ofEcho]
  constructor
  · rintro rfl
    exact lookup?_injective hid hid'
  · rintro (heq | ⟨hroot, hroot'⟩)
    · rw [heq, hid', Option.some.injEq] at hid
      exact hid.symm
    · rw [lookup?_of_isRoot hroot, Option.some.injEq] at hid
      rw [lookup?_of_isRoot hroot', Option.some.injEq] at hid'
      exact hid.symm.trans hid'

end Registry

/-- The outlet of an object was built last for the label that the object reports now. -/
def ObjectRecord.IsSettled (record : ObjectRecord) : Prop :=
  record.builtFor = record.reportedLabel

/-- A command puts no other object in the place of an object and leaves it the label that it
reports. -/
def Command.KeepsLabel (key : String) (cls : LoggedClass) (reported : Option String) :
    Command → Prop
  | .object other (.make ..) | .object other (.copy _) => other ≠ key
  | .object other (.relabel label) => other = key → cls.reported label = reported
  | _ => True

namespace ObjectTable

/-- An object of a class is settled with the label that it reports. -/
def Settles (table : ObjectTable) (key registryKey : String) (cls : LoggedClass)
    (reported : Option String) : Prop :=
  ∃ record, table.get? key = some record ∧ record.registry = registryKey ∧
    record.loggedClass = cls ∧ record.builtFor = reported ∧ record.reportedLabel = reported

section

variable {table : ObjectTable} {key registryKey : String} {cls : LoggedClass}
  {reported : Option String} (h : table.Settles key registryKey cls reported)

include h

theorem Settles.insert {other : String} {record : ObjectRecord}
    (hrecord : other = key → record.registry = registryKey ∧ record.loggedClass = cls ∧
      record.builtFor = reported ∧ record.reportedLabel = reported) :
    Settles (NameMap.insert table other record) key registryKey cls reported := by
  rw [Settles, NameMap.get?_insert]
  split
  · next heq => exact ⟨record, rfl, hrecord heq.symm⟩
  · exact h

theorem Settles.after {command : Command} (hkeeps : command.KeepsLabel key cls reported) :
    (table.after command).Settles key registryKey cls reported := by
  have hsettles := h
  obtain ⟨held, hheld, hregistry, hclass, hbuilt, hreported⟩ := hsettles
  have hsource : ∀ {record : ObjectRecord}, table.get? key = some record → record = held :=
    fun hrecord => Option.some.inj (hrecord.symm.trans hheld)
  unfold ObjectTable.after
  split
  · next other _ _ _ _ _ => exact h.insert fun heq => absurd heq hkeeps
  · split
    · exact h
    · exact h.insert fun heq => absurd heq hkeeps
  · next other label =>
      split
      · exact h
      · next record hrecord =>
          refine h.insert ?_
          rintro rfl
          obtain rfl := hsource hrecord
          refine ⟨hregistry, hclass, hbuilt, ?_⟩
          rw [← hkeeps rfl, ← hclass]
          rfl
  · next other echo =>
      split
      · exact h
      · next record hrecord =>
          refine h.insert ?_
          rintro rfl
          obtain rfl := hsource hrecord
          exact ⟨hregistry, hclass, hreported, hreported⟩
  · exact h

theorem Settles.foldl {commands : List Command}
    (hkeeps : ∀ command ∈ commands, command.KeepsLabel key cls reported) :
    Settles (commands.foldl ObjectTable.after table) key registryKey cls reported := by
  induction commands generalizing table with
  | nil => exact h
  | cons command rest ih =>
      obtain ⟨hfirst, hrest⟩ := List.forall_mem_cons.mp hkeeps
      exact ih (h.after hfirst) hrest

end

theorem settles_afterRun {commands before after : List Command} {key registryKey : String}
    {cls : LoggedClass} {label : Option String} {echo : Echo}
    (hcommands : commands = before ++
      .object key (.make registryKey cls label (cls.reported label) echo) :: after)
    (hkeeps : ∀ command ∈ after, command.KeepsLabel key cls (cls.reported label)) :
    (afterRun commands).Settles key registryKey cls (cls.reported label) := by
  rw [hcommands, afterRun, List.foldl_append, List.foldl_cons]
  refine Settles.foldl ?_ hkeeps
  rw [Settles, ObjectTable.after, NameMap.get?_insert, if_pos rfl]
  exact ⟨_, rfl, rfl, rfl, rfl, rfl⟩

end ObjectTable

namespace Session

theorem Follows.shows {session : Session} {table : ObjectTable} (h : session.Follows table)
    {key : String} {object : Owned Instance} {record : ObjectRecord}
    (hobject : session.objects.get? key = some object) (hrecord : table.get? key = some record) :
    (session.registry object.registry).Shows object record := by
  have hkey := h key
  rw [hobject, hrecord] at hkey
  rcases hkey with hshows | _
  rw [hshows.registry_eq]
  exact hshows

theorem Follows.exists_object {session : Session} {table : ObjectTable} (h : session.Follows table)
    {key : String} {record : ObjectRecord} (hrecord : table.get? key = some record) :
    ∃ object, session.objects.get? key = some object := by
  have hkey := h key
  rw [hrecord] at hkey
  generalize session.objects.get? key = object at hkey ⊢
  rcases hkey with hshows | _
  exact ⟨_, rfl⟩

theorem Follows.exists_record {session : Session} {table : ObjectTable} (h : session.Follows table)
    {key : String} {object : Owned Instance} (hobject : session.objects.get? key = some object) :
    ∃ record, table.get? key = some record := by
  have hkey := h key
  rw [hobject] at hkey
  generalize table.get? key = record at hkey ⊢
  rcases hkey with hshows | _
  exact ⟨_, rfl⟩

/-- In every state of a run, objects in one registry whose classes have the same namespace share a
logger just if they have the same label or none; their outlets are built for the labels that they
report, as long as those are the ones that they were made for. Whatever their labels are, objects
log below their classes. -/
theorem labels_tell_objects_apart (moment : Moment) (commands : List Command) :
    let session := (run { moment } commands).1
    let table := ObjectTable.afterRun commands
    (∀ before after key registryKey cls label echo,
      commands = before ++
        .object key (.make registryKey cls label (cls.reported label) echo) :: after →
      (∀ command ∈ after, command.KeepsLabel key cls (cls.reported label)) →
      ∃ object record, session.objects.get? key = some object ∧ table.get? key = some record ∧
        record.IsSettled ∧ object.registry = registryKey ∧ object.value.loggedClass = cls ∧
        object.value.reportedLabel = cls.reported label) ∧
      (∀ first second object other record another,
        session.objects.get? first = some object → table.get? first = some record →
        session.objects.get? second = some other → table.get? second = some another →
        record.IsSettled → another.IsSettled → other.registry = object.registry →
        other.value.loggedClass.namespaceName = object.value.loggedClass.namespaceName →
        (object.value.state.outlet.logger = other.value.state.outlet.logger ↔
          object.value.reportedLabel = other.value.reportedLabel ∨
            Unlabelled object.value.reportedLabel ∧ Unlabelled other.value.reportedLabel)) ∧
      ∀ key object, session.objects.get? key = some object →
        (session.registry object.registry).LogsBelowClass object.value := by
  intro session table
  have hfollows : session.Follows table := (follows_fresh moment).run commands
  refine ⟨?_, ?_, ?_⟩
  · rintro before after key registryKey cls label echo hcommands hkeeps
    obtain ⟨record, hrecord, rfl, rfl, hbuilt, hreported⟩ :=
      ObjectTable.settles_afterRun hcommands hkeeps
    obtain ⟨object, hobject⟩ := hfollows.exists_object hrecord
    have hshows := hfollows.shows hobject hrecord
    exact ⟨object, record, hobject, hrecord, hbuilt.trans hreported.symm, hshows.registry_eq,
      hshows.loggedClass_eq, hshows.reportedLabel_eq.trans hreported⟩
  · intro first second object other record another hobject hrecord hother hanother hsettled
      hsettled' hregistry hclass
    have hshows := hfollows.shows hobject hrecord
    have hshows' := hfollows.shows hother hanother
    rw [hregistry] at hshows'
    rw [hshows.loggedClass_eq, hshows'.loggedClass_eq] at hclass
    rw [hshows.same_logger_iff hshows', hshows.reportedLabel_eq, hshows'.reportedLabel_eq,
      ← hsettled, ← hsettled']
    exact LoggedClass.instanceName_same_iff hclass
  · intro key object hobject
    obtain ⟨record, hrecord⟩ := hfollows.exists_record hobject
    exact (wellFormed_registry_run moment commands object.registry).logsBelowClass
      (hfollows.shows hobject hrecord)

/-- Labels that differ in a dot only make a difference, also below a class that is named like the
root. -/
theorem labels_below_class_named_root :
    let moment : Moment := { instant := { seconds := 0 } }
    let cls : LoggedClass := { typeName := "Engine", declaredNamespace := some "root" }
    let commands := [
      Command.object "first" (.make "main" cls (some "a") (cls.reported (some "a")) .unset),
      .object "second" (.make "main" cls (some "a.") (cls.reported (some "a.")) .debug),
      .object "first" (.writeEcho .off)]
    let session := (run { moment } commands).1
    ∃ object other, session.objects.get? "first" = some object ∧
      session.objects.get? "second" = some other ∧
      object.value.reportedLabel = some "a" ∧ other.value.reportedLabel = some "a." ∧
      object.value.state.outlet.logger ≠ other.value.state.outlet.logger ∧
      (session.registry object.registry).LogsBelowClass object.value := by
  intro moment cls commands session
  obtain ⟨hmade, hsame, hbelow⟩ := labels_tell_objects_apart moment commands
  obtain ⟨object, record, hobject, hrecord, hsettled, hregistry, hclass, hlabel⟩ :=
    hmade [] (commands.drop 1) "first" "main" cls (some "a") .unset rfl
      (List.forall_mem_cons.mpr
        ⟨show "second" ≠ "first" by decide, List.forall_mem_singleton.mpr trivial⟩)
  obtain ⟨other, another, hother, hanother, hsettled', hregistry', hclass', hlabel'⟩ :=
    hmade (commands.take 1) (commands.drop 2) "second" "main" cls (some "a.") .debug rfl
      (List.forall_mem_singleton.mpr trivial)
  have hiff := hsame "first" "second" object other record another hobject hrecord hother hanother
    hsettled hsettled' (hregistry'.trans hregistry.symm) (by rw [hclass, hclass'])
  refine ⟨object, other, hobject, hother, hlabel, hlabel', ?_, hbelow "first" object hobject⟩
  rw [Ne, hiff, hlabel, hlabel']
  simp [Unlabelled, LoggedClass.reported, cls]

end Session

end LogTree
