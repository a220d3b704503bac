import DiagramMigrations.Proofs.EnumClass.Constants
import DiagramMigrations.Proofs.EnumClass.Registry
import DiagramMigrations.Proofs.Project.EnumReferences

/-!
The constants of the enumeration classes of a project. A class declares the literals of its own
enumeration, while its map is taken from the registry, where a name leads to the last enumeration
that is called so; the two are the same as long as enumerations of one name have the same literals.
Without warnings they are, but nothing keeps a class from declaring a constant twice.
-/

set_option autoImplicit false
set_option relaxedAutoImplicit false

namespace DiagramMigrations

open EnumClass Enumeration

variable {settings : Settings} {now : Timestamp} {s : Schema} {c : Context} {p : Project}
  {e last : Enumeration}

namespace Context

/-- The class of an enumeration declares its literals. -/
theorem declarationLines_enumClass (c : Context) (e : Enumeration) (enumNamespace : String) :
    (c.enumClass e).declarationLines enumNamespace = e.literalNames.map constantLine := by
  rw [declarationLines_eq, literalNames, List.map_map]
  rfl

/-- The map of a class lists the literals of the last enumeration of the name. -/
theorem entryLines_enumClass (h : ofSchema settings now s = .ok c)
    (hlast : lastNamed? s.enumerations e.name = some last) (enumNamespace : String) :
    (c.enumClass e).entryLines enumNamespace = last.literalNames.map entryLine := by
  have hpairs : (c.enumClass e).pairs = last.literalNames.map fun l ↦ (l, l) := by
    rw [enumClass, ofEnumeration, registry_eq h, EnumRegistry.pairs?_ofSchema hlast,
      Option.getD_some]
  rw [entryLines_eq, hpairs, List.map_map]
  rfl

/-- The files for the classes are those for the enumerations of the schema, if any are wanted. -/
theorem filesOf_enumeration (h : ofSchema settings now s = .ok c)
    (warnings : List ValidationWarning) : (c.project warnings).filesOf .enumeration =
      (if settings.generateEnums then s.enumerations else []).map c.enumOutput := by
  rw [enumerations_project, hasEnumClasses, settings_eq h, enumerations_eq h]
  cases settings.generateEnums with
  | false => rfl
  | true => cases s.enumerations <;> rfl

end Context

/-- The file for an enumeration declares a constant for each of its literals, in order, and its map
has an entry for each literal of the last enumeration of the same name, in order. The map lists
exactly the constants that the file declares if the two have the same literals, and otherwise it
does not. -/
theorem map_lists_constants_iff (hc : Context.ofSchema settings now s = .ok c)
    (he : e ∈ s.enumerations) :
    c.Holds (c.enumOutput e) (c.enumClass e) ∧
      (c.enumClass e).declarationLines c.settings.enumNamespace =
        e.literalNames.map constantLine ∧
      ∃ last, lastNamed? s.enumerations e.name = some last ∧
        (c.enumClass e).entryLines c.settings.enumNamespace = last.literalNames.map entryLine ∧
        ((c.enumClass e).entryLines c.settings.enumNamespace = e.literalNames.map entryLine ↔
          last.literalNames = e.literalNames) := by
  obtain ⟨last, hlast⟩ := exists_lastNamed? (List.mem_map_of_mem he)
  have hentries := Context.entryLines_enumClass hc hlast c.settings.enumNamespace
  refine ⟨Context.holds_enumOutput e, c.declarationLines_enumClass e _, last, hlast, hentries, ?_⟩
  rw [hentries]
  exact (List.map_injective_iff.mpr entryLine_injective).eq_iff

/-- An enumeration whose literals are not documented. -/
def Enumeration.plain (id name : String) (literals : List String) : Enumeration where
  id
  name
  literals := literals.map fun name ↦ { name }

/-- A schema of tickets with enumerations. -/
def Schema.tickets (enumerations : List Enumeration) : Schema where
  name := "Tickets"
  tables := [{ id := "t", name := "Ticket" }]
  enumerations

theorem Context.exists_tickets (enumerations : List Enumeration) :
    ∃ c, ofSchema {} ⟨0, 0, 0⟩ (.tickets enumerations) = .ok c := by
  have horder : dependencyOrder (Schema.tickets enumerations).tables
      (Schema.tickets enumerations).associations = .ok [0] := rfl
  exact ⟨_, ofSchema_eq_ok.mpr ⟨[0], horder, rfl⟩⟩

/-- A witness: of a state and an outcome with literals of their own, the map of the first class
lists what the class declares. -/
theorem state_lists_its_constants :
    ∃ c, Context.ofSchema {} ⟨0, 0, 0⟩
        (.tickets [.plain "s" "State" ["Open", "Closed"], .plain "o" "Outcome" ["Won"]]) = .ok c ∧
      (Enumeration.plain "s" "State" ["Open", "Closed"]) ∈ (Schema.tickets
        [.plain "s" "State" ["Open", "Closed"], .plain "o" "Outcome" ["Won"]]).enumerations ∧
      (c.enumClass (.plain "s" "State" ["Open", "Closed"])).declarationLines
          c.settings.enumNamespace =
        ["    const Open = 'Open';", "    const Closed = 'Closed';"] ∧
      (c.enumClass (.plain "s" "State" ["Open", "Closed"])).entryLines c.settings.enumNamespace =
        ["            'Open' => self::Open,", "            'Closed' => self::Closed,"] := by
  obtain ⟨c, hc⟩ := Context.exists_tickets
    [.plain "s" "State" ["Open", "Closed"], .plain "o" "Outcome" ["Won"]]
  have hmem : (Enumeration.plain "s" "State" ["Open", "Closed"]) ∈ (Schema.tickets
      [.plain "s" "State" ["Open", "Closed"], .plain "o" "Outcome" ["Won"]]).enumerations :=
    List.mem_cons_self
  obtain ⟨-, hdeclared, last, hlast, -, hlisted⟩ := map_lists_constants_iff hc hmem
  have hsame : last = .plain "s" "State" ["Open", "Closed"] :=
    Option.some.inj (hlast.symm.trans (by decide))
  refine ⟨c, hc, hmem, hdeclared.trans (by decide), ?_⟩
  exact (hlisted.mpr (by rw [hsame])).trans (by decide)

/-- Of two enumerations of one name, the first class declares its own literal and lists that of the
second one, which it does not declare. -/
theorem state_lists_other_constants :
    ∃ c, Context.ofSchema {} ⟨0, 0, 0⟩
        (.tickets [.plain "a" "State" ["Open"], .plain "b" "State" ["Closed"]]) = .ok c ∧
      c.Holds (c.enumOutput (.plain "a" "State" ["Open"]))
        (c.enumClass (.plain "a" "State" ["Open"])) ∧
      (c.enumClass (.plain "a" "State" ["Open"])).declarationLines c.settings.enumNamespace =
        ["    const Open = 'Open';"] ∧
      (c.enumClass (.plain "a" "State" ["Open"])).entryLines c.settings.enumNamespace =
        ["            'Closed' => self::Closed,"] := by
  obtain ⟨c, hc⟩ := Context.exists_tickets
    [.plain "a" "State" ["Open"], .plain "b" "State" ["Closed"]]
  have hlast : lastNamed? (Schema.tickets
      [.plain "a" "State" ["Open"], .plain "b" "State" ["Closed"]]).enumerations "State" =
        some (.plain "b" "State" ["Closed"]) := by decide
  refine ⟨c, hc, Context.holds_enumOutput _, ?_, ?_⟩
  · exact (c.declarationLines_enumClass _ _).trans (by decide)
  · exact (Context.entryLines_enumClass (e := .plain "a" "State" ["Open"]) hc hlast _).trans
      (by decide)

/-! ### Projects without warnings -/

namespace Schema

/-- Without a warning about a shared class name, every enumeration is the last of its name. -/
theorem lastNamed?_of_silent (h : s.validate.IsSilentOn .duplicateEnumerationName)
    (he : e ∈ s.enumerations) : lastNamed? s.enumerations e.name = some e := by
  have hclasses := classNames_nodup h
  rw [← Function.comp_def, ← List.map_map] at hclasses
  exact lastNamed?_of_nodup (List.Nodup.of_map _ hclasses) he

end Schema

/-- In a project without warnings every enumeration file is that of an enumeration, declares a
constant for each of its literals, in order, and lists these constants in its map. It declares no
constant twice exactly if no two of the literals have the same name. -/
theorem constants_distinct_iff (hp : Project.generate settings now s = .ok p)
    (hsilent : p.warnings = []) :
    ∃ c, Context.ofSchema settings now s = .ok c ∧
      p.filesOf .enumeration =
        (if settings.generateEnums then s.enumerations else []).map c.enumOutput ∧
      ∀ f ∈ p.filesOf .enumeration, ∃ e ∈ s.enumerations, c.Holds f (c.enumClass e) ∧
        (c.enumClass e).declarationLines settings.enumNamespace =
          e.literalNames.map constantLine ∧
        (c.enumClass e).entryLines settings.enumNamespace = e.literalNames.map entryLine ∧
        (((c.enumClass e).declarationLines settings.enumNamespace).Nodup ↔
          e.literalNames.Nodup) := by
  have hshared := Schema.isSilentOn_of_generate hp hsilent .duplicateEnumerationName
  obtain ⟨-, -, c, hc, rfl⟩ := Project.generate_eq_ok.mp hp
  have hfiles := Context.filesOf_enumeration hc s.validate.warnings
  refine ⟨c, hc, hfiles, fun f hf ↦ ?_⟩
  rw [hfiles] at hf
  obtain ⟨e, hwanted, rfl⟩ := List.mem_map.mp hf
  have he : e ∈ s.enumerations := by
    split_ifs at hwanted
    · exact hwanted
    · exact absurd hwanted List.not_mem_nil
  have hdeclared := c.declarationLines_enumClass e settings.enumNamespace
  have hlast := Schema.lastNamed?_of_silent hshared he
  refine ⟨e, he, Context.holds_enumOutput e, hdeclared,
    Context.entryLines_enumClass hc hlast _, ?_⟩
  rw [hdeclared]
  exact List.nodup_map_iff constantLine_injective

theorem Project.generate_tickets {enumerations : List Enumeration}
    (hreport : (Schema.tickets enumerations).validate = .empty) :
    ∃ p, generate {} ⟨0, 0, 0⟩ (.tickets enumerations) = .ok p ∧ p.warnings = [] := by
  have hdefaults : Settings.fault? {} = none := by decide
  have horder : dependencyOrder (Schema.tickets enumerations).tables
      (Schema.tickets enumerations).associations = .ok [0] := rfl
  exact exists_generate_of_empty hdefaults hreport horder

/-- A witness: the only enumeration file of tickets that are open or closed declares both. -/
theorem open_and_closed_declared :
    ∃ p c, Project.generate {} ⟨0, 0, 0⟩
        (.tickets [.plain "s" "State" ["Open", "Closed"]]) = .ok p ∧ p.warnings = [] ∧
      Context.ofSchema {} ⟨0, 0, 0⟩
        (.tickets [.plain "s" "State" ["Open", "Closed"]]) = .ok c ∧
      p.filesOf .enumeration = [c.enumOutput (.plain "s" "State" ["Open", "Closed"])] ∧
      ∀ f ∈ p.filesOf .enumeration, ∃ k, c.Holds f k ∧
        k.declarationLines "App\\Enums" =
          ["    const Open = 'Open';", "    const Closed = 'Closed';"] ∧
        (k.declarationLines "App\\Enums").Nodup := by
  have hreport : (Schema.tickets [.plain "s" "State" ["Open", "Closed"]]).validate = .empty := by
    decide
  obtain ⟨p, hp, hwarnings⟩ := Project.generate_tickets hreport
  obtain ⟨c, hc, hfiles, hheld⟩ := constants_distinct_iff hp hwarnings
  refine ⟨p, c, hp, hwarnings, hc, hfiles, fun f hf ↦ ?_⟩
  obtain ⟨e, he, hholds, hdeclared, -, hnodup⟩ := hheld f hf
  obtain rfl := List.mem_singleton.mp he
  exact ⟨_, hholds, hdeclared.trans (by decide), hnodup.mpr (by decide)⟩

/-- Tickets whose state has a literal twice: the class declares the constant twice, and nothing is
warned about. -/
theorem open_declared_twice :
    ∃ p c, Project.generate {} ⟨0, 0, 0⟩
        (.tickets [.plain "s" "State" ["Open", "Open"]]) = .ok p ∧ p.warnings = [] ∧
      Context.ofSchema {} ⟨0, 0, 0⟩ (.tickets [.plain "s" "State" ["Open", "Open"]]) = .ok c ∧
      ∃ f ∈ p.filesOf .enumeration, ∃ k, c.Holds f k ∧
        k.declarationLines "App\\Enums" =
          ["    const Open = 'Open';", "    const Open = 'Open';"] ∧
        ¬ (k.declarationLines "App\\Enums").Nodup := by
  have hreport : (Schema.tickets [.plain "s" "State" ["Open", "Open"]]).validate = .empty := by
    decide
  obtain ⟨p, hp, hwarnings⟩ := Project.generate_tickets hreport
  obtain ⟨-, -, c, hc, rfl⟩ := Project.generate_eq_ok.mp hp
  have hdeclared : (c.enumClass (.plain "s" "State" ["Open", "Open"])).declarationLines
      "App\\Enums" = ["    const Open = 'Open';", "    const Open = 'Open';"] :=
    (c.declarationLines_enumClass _ _).trans (by decide)
  refine ⟨_, c, hp, hwarnings, hc, c.enumOutput (.plain "s" "State" ["Open", "Open"]), ?_,
    c.enumClass (.plain "s" "State" ["Open", "Open"]), Context.holds_enumOutput _, hdeclared, ?_⟩
  · rw [Context.filesOf_enumeration hc]
    exact List.mem_cons_self
  · rw [hdeclared]
    decide

end DiagramMigrations
