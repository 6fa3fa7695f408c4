import LogTree.Proofs.CheckedLogging
import LogTree.Proofs.ParentWalks

namespace LogTree

theorem Namespace.not_isRoot_of_enclosing? {name outer : String}
    (h : enclosing? name = some outer) : ¬IsRoot name := by
  rintro (rfl | rfl)
  · cases h
  · have hnone : enclosing? rootName = none := by decide
    rw [hnone] at h
    cases h

namespace Registry

/-- The parent has the enclosing name, whatever a request for that name gives. -/
theorem WellFormed.parent?_of_enclosing? {registry : Registry} (h : registry.WellFormed)
    {name outer : String} (henclosing : Namespace.enclosing? name = some outer) {id : LoggerId}
    (hid : registry.lookup? name = some id) :
    ∃ parent, registry.parent? id = some parent ∧ registry.find? outer = some parent := by
  have hfind := find?_of_lookup? hid (Namespace.not_isRoot_of_enclosing? henclosing)
  obtain ⟨parent, hparent, -⟩ :=
    exists_parent?_of_holds (holds_of_find? hfind) (ne_rootId_of_find? hfind)
  have houter := h.parent?_of_find? hfind
  rw [enclosingId?, henclosing] at houter
  exact ⟨parent, hparent, houter.symm.trans hparent⟩

theorem obtain_eq_of_find? {registry : Registry} {name : String} {id : LoggerId}
    (hid : registry.find? name = some id) (hroot : ¬Namespace.IsRoot name) :
    registry.obtain name = ⟨registry, id, holds_of_find? hid⟩ :=
  obtain_eq_of_lookup? (lookup?_of_find? hid hroot)

theorem obtain_id_eq_iff {registry : Registry} {name : String} {id : LoggerId}
    (hid : registry.find? name = some id) (hname : name ≠ "") :
    (registry.obtain name).id = id ↔ name ≠ Namespace.rootName := by
  constructor
  · rintro heq rfl
    rw [obtain_of_isRoot (.inr rfl)] at heq
    exact ne_rootId_of_find? hid heq.symm
  · intro hroot
    rw [obtain_eq_of_find? hid (not_or.mpr ⟨hname, hroot⟩)]

theorem obtain_obtain_self (registry : Registry) (name : String) :
    (registry.obtain name).registry.obtain name = registry.obtain name :=
  obtain_eq_of_lookup? (registry.lookup?_obtain_self name)

theorem WellFormed.eq_of_name_eq {registry : Registry} (h : registry.WellFormed)
    {id other : LoggerId} (hid : registry.Holds id) (hother : registry.Holds other)
    (hroot : id ≠ rootId) (hroot' : other ≠ rootId)
    (hname : registry.name id = registry.name other) : id = other := by
  have hfind := h.find?_name hid hroot
  rw [hname, h.find?_name hother hroot', Option.some.injEq] at hfind
  exact hfind.symm

end Registry

namespace Session

theorem registry_locate_self (session : Session) (key name : String) :
    (session.locate { registry := key, name }).1.registry key =
      ((session.registry key).obtain name).registry := by
  rw [registry_locate, if_pos rfl]

theorem wellFormed_locate (moment : Moment) (commands : List Command) (key name : String) :
    (((run { moment } commands).1.locate { registry := key, name }).1.registry key).WellFormed := by
  rw [registry_locate_self]
  exact Registry.wellFormed_obtain (wellFormed_registry_run moment commands key) name

theorem lookup?_locate (session : Session) (key name : String) :
    ((session.locate { registry := key, name }).1.registry key).lookup? name =
      some (((session.locate { registry := key, name }).1.registry key).obtain name).id := by
  rw [registry_locate_self, Registry.obtain_obtain_self]
  exact Registry.lookup?_obtain_self _ name

/-- A logger is reached through its name and through the names that it encloses, one generation
further up, but for the logger that has the name of the root. -/
theorem locate_enclosing {session : Session} {key name outer : String} {id parent : LoggerId}
    (hid : (session.registry key).lookup? name = some id)
    (hparent : (session.registry key).parent? id = some parent)
    (hfind : (session.registry key).find? outer = some parent) (hroot : ¬Namespace.IsRoot outer)
    (generations : Nat) :
    session.locate { registry := key, name := outer, generations } =
      session.locate { registry := key, name, generations := generations + 1 } := by
  rw [locate, locate]
  simp only [Registry.obtain_eq_of_lookup? hid, Registry.obtain_eq_of_find? hfind hroot,
    Registry.climb?, hparent, Option.bind_some]

theorem step_eq_of_locate_eq {session : Session} {address other : Address}
    (hkey : address.registry = other.registry)
    (hlocate : session.locate address = session.locate other) :
    (∀ command, session.step (.logger address command) = session.step (.logger other command)) ∧
      ∀ command, session.step (.target (.logger address) command) =
        session.step (.target (.logger other) command) := by
  refine ⟨?_, ?_⟩
  · intro command
    simp only [step, hlocate, hkey]
  · intro command
    simp only [step, resolve, hlocate, hkey]

/-- After a request for a name with an enclosing namespace, the parent of its logger is the one with
the enclosing name. A request for that name gives the parent, and whatever is done through it is
done to the parent, unless it is the name of the root. No other name is shared by two loggers. -/
theorem parents_agree_with_names (moment : Moment) (commands : List Command) (key : String) :
    let reached := (run { moment } commands).1
    (∀ (name outer : String) (rest : List Char),
      name.toList = outer.toList ++ '.' :: rest → '.' ∉ rest → outer ≠ "" →
      let session := (reached.locate { registry := key, name }).1
      let registry := session.registry key
      let id := (registry.obtain name).id
      registry.obtain name = (reached.registry key).obtain name ∧
        (∃ parent, registry.parent? id = some parent ∧ registry.find? outer = some parent) ∧
        (registry.parent? id = some (registry.obtain outer).id ↔ outer ≠ Namespace.rootName) ∧
        (outer ≠ Namespace.rootName → ∀ generations,
          let direct : Address := { registry := key, name := outer, generations }
          let throughChild : Address := { registry := key, name, generations := generations + 1 }
          (∀ command, session.step (.logger direct command) =
            session.step (.logger throughChild command)) ∧
            ∀ command, session.step (.target (.logger direct) command) =
              session.step (.target (.logger throughChild) command))) ∧
      ∀ first second, (reached.registry key).Holds first → (reached.registry key).Holds second →
        (reached.registry key).name first = (reached.registry key).name second → first ≠ second →
        (reached.registry key).name first = Namespace.rootName ∧
          (first = Registry.rootId ∨ second = Registry.rootId) := by
  intro reached
  refine ⟨?_, ?_⟩
  · intro name outer rest hname hrest houter session registry id
    have henclosing := Namespace.enclosing?_eq_some_iff.mpr ⟨houter, rest, hname, hrest⟩
    have hwf : registry.WellFormed := wellFormed_locate moment commands key name
    have hid : registry.lookup? name = some id := lookup?_locate _ key name
    obtain ⟨parent, hparent, hfind⟩ := hwf.parent?_of_enclosing? henclosing hid
    refine ⟨?_, ⟨parent, hparent, hfind⟩, ?_, ?_⟩
    · unfold registry session
      rw [registry_locate_self, Registry.obtain_obtain_self]
    · rw [hparent, Option.some.injEq, ← Registry.obtain_id_eq_iff hfind houter]
      exact eq_comm
    · intro hroot generations direct throughChild
      exact step_eq_of_locate_eq rfl
        (locate_enclosing hid hparent hfind (not_or.mpr ⟨houter, hroot⟩) generations)
  · intro first second hfirst hsecond hsame hne
    rcases Decidable.em (first = Registry.rootId) with rfl | hfirstRoot
    · exact ⟨rfl, .inl rfl⟩
    · rcases Decidable.em (second = Registry.rootId) with rfl | hsecondRoot
      · exact ⟨hsame, .inr rfl⟩
      · exact absurd ((wellFormed_registry_run moment commands key).eq_of_name_eq hfirst hsecond
          hfirstRoot hsecondRoot hsame) hne

/-- A name may enclose another one up to the first of two dots. -/
theorem parent_of_doubled_dots :
    let session := ((run { moment := { instant := { seconds := 0 } } }
      [.logger { registry := "main", name := "a..b.c" } (.setLevel .error)]).1.locate
        { registry := "main", name := "a..b" }).1
    let registry := session.registry "main"
    ("a..b".toList = "a.".toList ++ '.' :: ['b'] ∧ '.' ∉ ['b'] ∧ "a." ≠ "" ∧
      "a." ≠ Namespace.rootName) ∧
      registry.parent? (registry.obtain "a..b").id = some (registry.obtain "a.").id ∧
      session.step (.logger { registry := "main", name := "a." } (.setLevel .debug)) =
        session.step (.logger { registry := "main", name := "a..b", generations := 1 }
          (.setLevel .debug)) := by
  intro session registry
  have hname : "a..b".toList = "a.".toList ++ '.' :: ['b'] := by decide
  have hrest : '.' ∉ ['b'] := by decide
  have houter : "a." ≠ "" := by decide
  have hroot : "a." ≠ Namespace.rootName := by decide
  obtain ⟨hnames, -⟩ := parents_agree_with_names { instant := { seconds := 0 } }
    [.logger { registry := "main", name := "a..b.c" } (.setLevel .error)] "main"
  obtain ⟨-, -, hparent, hstep⟩ := hnames "a..b" "a." ['b'] hname hrest houter
  exact ⟨⟨hname, hrest, houter, hroot⟩, hparent.mpr hroot, (hstep hroot 0).1 _⟩

/-- The name of the root stands for the root, but not for the parent of what it encloses, and two
loggers have it. -/
theorem parent_of_root_child :
    let session := ((run { moment := { instant := { seconds := 0 } } } []).1.locate
      { registry := "main", name := "root.child" }).1
    let registry := session.registry "main"
    ("root.child".toList = "root".toList ++ '.' :: "child".toList ∧ '.' ∉ "child".toList ∧
      "root" ≠ "") ∧
      registry.parent? (registry.obtain "root.child").id ≠ some (registry.obtain "root").id ∧
      ∃ first second, registry.Holds first ∧ registry.Holds second ∧ first ≠ second ∧
        registry.name first = registry.name second := by
  intro session registry
  have henclosing : Namespace.enclosing? "root.child" = some "root" := by decide
  obtain ⟨parent, hparent, hfind⟩ :=
    (wellFormed_locate _ _ "main" "root.child").parent?_of_enclosing? henclosing
      (lookup?_locate _ "main" "root.child")
  refine ⟨⟨by decide, by decide, by decide⟩, ?_, Registry.rootId, parent, Nat.zero_le _,
    Registry.holds_of_find? hfind, ?_, ?_⟩
  · intro heq
    rw [hparent, Option.some.injEq] at heq
    exact (Registry.obtain_id_eq_iff hfind (by decide)).mp heq.symm rfl
  · exact (Registry.ne_rootId_of_find? hfind).symm
  · exact (Registry.name_of_find? hfind).symm

end Session

end LogTree
